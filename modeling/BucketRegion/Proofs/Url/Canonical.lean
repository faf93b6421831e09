import BucketRegion.Proofs.Url.Hosts
import BucketRegion.Proofs.Url.Paths

/-!
# URLs in canonical form

Reading a URL gives one in canonical form, and changing components of a URL in canonical form gives
one again. Of such a URL a change can be told exactly. The components that are not changed stay as
they are, but for the authority: it is read anew, which puts a host name in small letters and leaves
out a port that the scheme implies.
-/

set_option autoImplicit false

namespace BucketRegion.Url

/-! ## Characters of components -/

theorem not_control_of_isVisible {c : Char} (visible : isVisible c = true) :
    Text.isAsciiControl c = false := by
  simp only [isVisible, Bool.and_eq_true, decide_eq_true_eq] at visible
  simp only [Text.isAsciiControl, Bool.or_eq_false_iff, decide_eq_false_iff_not,
    beq_eq_false_iff_ne]
  omega

theorem not_control_of_isQueryChar {c : Char} (plain : isQueryChar c = true) :
    Text.isAsciiControl c = false :=
  not_control_of_isVisible (Bool.and_eq_true_iff.mp plain).1

theorem not_control_of_isFragmentChar {c : Char} (plain : isFragmentChar c = true) :
    Text.isAsciiControl c = false :=
  not_control_of_isVisible (Bool.and_eq_true_iff.mp plain).1

theorem hash_ne_of_isQueryChar {c : Char} (plain : isQueryChar c = true) : c ≠ '#' := by
  rintro rfl
  exact absurd plain (by decide)

theorem isQueryChar_of_isPathChar {c : Char} (plain : isPathChar c = true) :
    isQueryChar c = true :=
  (Bool.and_eq_true_iff.mp plain).1

theorem question_ne_of_isPathChar {c : Char} (plain : isPathChar c = true) : c ≠ '?' := by
  rintro rfl
  exact absurd plain (by decide)

theorem isPathChar_of_isUserinfoChar {c : Char} (plain : isUserinfoChar c = true) :
    isPathChar c = true :=
  (Bool.and_eq_true_iff.mp plain).1

theorem isPathChar_of_isHexDigit (c : Char) (hex : isHexDigit c = true) : isPathChar c = true :=
  isPathChar_of_isUserinfoChar (isUserinfoChar_of_isHexDigit c hex)

theorem isQueryChar_of_isHexDigit (c : Char) (hex : isHexDigit c = true) : isQueryChar c = true :=
  isQueryChar_of_isPathChar (isPathChar_of_isHexDigit c hex)

theorem isFragmentChar_of_isHexDigit (c : Char) (hex : isHexDigit c = true) :
    isFragmentChar c = true := by
  have table : ∀ n < 128, isHexDigit (Char.ofNat n) = true →
      isFragmentChar (Char.ofNat n) = true := by decide
  exact Text.forall_ascii (p := fun c => isHexDigit c = true → isFragmentChar c = true) table
    (ascii_of_isHexDigit hex) hex

theorem isCut_of_isUserinfoChar {c : Char} (plain : isUserinfoChar c = true) :
    isCut c = false := by
  have visible := isQueryChar_of_isPathChar (isPathChar_of_isUserinfoChar plain)
  have marks := (Bool.and_eq_true_iff.mp plain).2
  simp only [Bool.not_eq_true', Bool.or_eq_false_iff, beq_eq_false_iff_ne] at marks
  simp [isCut, not_control_of_isQueryChar visible, hash_ne_of_isQueryChar visible,
    question_ne_of_isPathChar (isPathChar_of_isUserinfoChar plain), marks]

/-- Letters of schemes are no controls and stay such letters when they are made small. -/
theorem of_isSchemeChar {c : Char} (plain : isSchemeChar c = true) :
    c ≠ ':' ∧ Text.isAsciiControl c = false ∧ isSchemeChar c.toLower = true ∧
      c.toLower.toLower = c.toLower ∧ (c.isAlpha = true → c.toLower.isAlpha = true) := by
  have ascii : c.toNat < 128 := by
    simp only [isSchemeChar, Bool.or_eq_true, beq_iff_eq] at plain
    rcases plain with ((letter | rfl) | rfl) | rfl
    · exact Text.ascii_of_isAlphanum letter
    · decide
    · decide
    · decide
  have table : ∀ n < 128, isSchemeChar (Char.ofNat n) = true → Char.ofNat n ≠ ':' ∧
      Text.isAsciiControl (Char.ofNat n) = false ∧ isSchemeChar (Char.ofNat n).toLower = true ∧
      (Char.ofNat n).toLower.toLower = (Char.ofNat n).toLower ∧
      ((Char.ofNat n).isAlpha = true → (Char.ofNat n).toLower.isAlpha = true) := by decide
  exact Text.forall_ascii (p := fun c => isSchemeChar c = true → c ≠ ':' ∧
    Text.isAsciiControl c = false ∧ isSchemeChar c.toLower = true ∧
    c.toLower.toLower = c.toLower ∧ (c.isAlpha = true → c.toLower.isAlpha = true)) table ascii plain

theorem firstControl?_eq_none {cs : List Char} {position : Nat} :
    firstControl? position cs = none ↔ ∀ c ∈ cs, Text.isAsciiControl c = false := by
  induction cs generalizing position with
  | nil => simp [firstControl?]
  | cons c cs ih =>
      rw [firstControl?]
      split
      · next control => simp [control]
      · next plain => simp [ih, plain]

/-- A component that a URL can be changed by. -/
theorem checkComponent_eq_ok {name : String} {marks value : List Char} :
    checkComponent name marks value = .ok () ↔
      value.length ≤ lengthLimit ∧
        ∀ c ∈ value, Text.isAsciiControl c = false ∧ c ∉ marks := by
  unfold checkComponent
  rw [ite_error_eq_ok, Nat.not_lt]
  cases control : firstControl? 0 value with
  | some found =>
      have some : ¬ ∀ c ∈ value, Text.isAsciiControl c = false := by
        intro none
        rw [firstControl?_eq_none.mpr none] at control
        cases control
      simp only [reduceCtorEq, and_false, false_iff, not_and]
      exact fun _ all => some fun c member => (all c member).1
  | none =>
      have plain := firstControl?_eq_none.mp control
      dsimp only
      rw [ite_error_eq_ok]
      simp +contextual [plain]

/-! ## Parts of a text -/

/-- A scheme is a run of its letters, and the first is one of the alphabet. -/
theorem of_splitScheme (cs : List Char) :
    (∀ c ∈ (splitScheme cs).1, isSchemeChar c = true) ∧
      (∀ c ∈ (splitScheme cs).1.head?, c.isAlpha = true) ∧ ∀ c ∈ (splitScheme cs).2, c ∈ cs := by
  have front : ∀ c ∈ cs.takeWhile isSchemeChar, isSchemeChar c = true :=
    fun c member => List.mem_takeWhile_imp member
  have back : ∀ c ∈ cs.dropWhile isSchemeChar, c ∈ cs :=
    fun c member => (List.dropWhile_suffix isSchemeChar).mem member
  unfold splitScheme
  dsimp only
  split
  · next rest shown =>
      have later : ∀ c ∈ rest, c ∈ cs :=
        fun c member => back c (by rw [shown]; exact List.mem_cons_of_mem _ member)
      split
      · exact ⟨by simp, by simp, later⟩
      · next first more name =>
          split
          · next letter =>
              exact ⟨front, by simpa [name] using letter, later⟩
          · exact ⟨by simp, by simp, fun c member => member⟩
  · exact ⟨by simp, by simp, fun c member => member⟩

/-- The authority of a text ends where another part begins. -/
theorem of_mem_authority {cs : List Char} {c : Char} (member : c ∈ (Parts.ofChars cs).authority) :
    c ∈ cs ∧ c ≠ '/' ∧ c ≠ '?' ∧ c ≠ '#' := by
  have rest := (of_splitScheme cs).2.2
  unfold Parts.ofChars at member
  dsimp only at member
  split at member
  · next more shown =>
      have ended := List.mem_takeWhile_imp member
      have within := (List.takeWhile_prefix _).mem member
      refine ⟨rest c (by rw [shown]; simp [within]), ?_⟩
      simpa [and_assoc] using ended
  · cases member

theorem of_mem_host {cs : List Char} {c : Char} (member : c ∈ (Authority.ofChars cs).host) :
    c ∈ cs ∧ c ≠ '@' := by
  unfold Authority.ofChars at member
  obtain ⟨userinfo, rest, shown, within, absent⟩ : ∃ userinfo rest,
      (Text.cutLast? '@' cs).getD ([], cs) = (userinfo, rest) ∧ (∀ c ∈ rest, c ∈ cs) ∧
        '@' ∉ rest := by
    cases cut : Text.cutLast? '@' cs with
    | none => exact ⟨[], cs, rfl, fun c member => member, Text.not_mem_of_cutLast?_eq_none cut⟩
    | some pair =>
        obtain ⟨userinfo, rest⟩ := pair
        obtain ⟨whole, absent⟩ := Text.cutLast?_eq_some cut
        exact ⟨userinfo, rest, rfl, fun c member => by rw [whole]; simp [member], absent⟩
  have inside : c ∈ rest := by
    rw [shown] at member
    dsimp only at member
    have unbracketed : c ∈ rest.takeWhile (· != ':') → c ∈ rest :=
      fun among => (List.takeWhile_prefix _).mem among
    split at member
    · cases cut : Text.cutLast? ']' rest with
      | none =>
          rw [cut] at member
          exact unbracketed member
      | some pair =>
          obtain ⟨address, port⟩ := pair
          have whole := (Text.cutLast?_eq_some cut).1
          rw [cut] at member
          rw [whole]
          rcases List.mem_append.mp member with before | bracket
          · exact List.mem_append_left _ before
          · rw [List.mem_singleton.mp bracket]
            simp
    · exact unbracketed member
  exact ⟨within c inside, fun same => absent (same ▸ inside)⟩

/-! ## Canonical form -/

def hasScheme (url : Url) : Bool := !url.scheme.toList.isEmpty

def hasAuthority (url : Url) : Bool :=
  !url.userinfo.toList.isEmpty || !url.host.toList.isEmpty || url.port.isSome

/-- What holds of every URL that has been read. -/
structure IsCanonical (url : Url) : Prop where
  /-- A scheme is in small letters. -/
  scheme : ∀ c ∈ url.scheme.toList, isSchemeChar c = true ∧ c.toLower = c
  /-- The first letter of a scheme is one of the alphabet. -/
  letter : ∀ c ∈ url.scheme.toList.head?, c.isAlpha = true
  userinfo : url.HasPlainUserinfo
  host : HostForm url.host.toList
  /-- A port is not too long to be read. -/
  port : ∀ port ∈ url.port, (Decimal.digits port.natAbs).length ≤ Decimal.digitLimit
  path : ∀ c ∈ url.path.toList, isPathChar c = true
  query : ∀ query ∈ url.query, ∀ c ∈ query.toList, isQueryChar c = true
  fragment : ∀ fragment ∈ url.fragment, ∀ c ∈ fragment.toList, isFragmentChar c = true
  /-- The path fits what stands in front of it. -/
  fits : checkPath url.path.toList url.hasScheme url.hasAuthority = .ok ()
  /-- A path that something stands in front of has no dot segments. -/
  undotted : (url.hasScheme || url.hasAuthority) = true →
    dropDots url.path.toList = url.path.toList

variable {url changed : Url} {parts : Parts} {authority : Authority}

/-- The path as it is put into a URL. -/
def canonicalPath (fronted : Bool) (path : List Char) : List Char :=
  requote isPathChar (if fronted then dropDots path else path)

theorem assemble_eq_ok :
    assemble parts authority = .ok url ↔
      ∃ host port, canonicalHost authority.host = .ok host ∧
        canonicalPort (String.ofList parts.scheme) (String.ofList authority.port) = .ok port ∧
        url = {
          scheme := String.ofList (parts.scheme.map Char.toLower)
          userinfo := String.ofList (requote isUserinfoChar authority.userinfo)
          host := String.ofList host
          port := port
          path := String.ofList (canonicalPath (url.hasScheme || url.hasAuthority) parts.path)
          query := parts.query.map fun q => String.ofList (requote isQueryChar q)
          fragment := parts.fragment.map fun f => String.ofList (requote isFragmentChar f) } ∧
        checkPath parts.path url.hasScheme url.hasAuthority = .ok () := by
  have known : ∀ {host : List Char} {port : Option Int} {path : String} {query fragment},
      url = {
        scheme := String.ofList (parts.scheme.map Char.toLower)
        userinfo := String.ofList (requote isUserinfoChar authority.userinfo)
        host := String.ofList host
        port := port
        path := path
        query := query
        fragment := fragment } →
      url.hasScheme = !parts.scheme.isEmpty ∧ url.hasAuthority =
        (!(requote isUserinfoChar authority.userinfo).isEmpty || !host.isEmpty ||
          port.isSome) := by
    rintro host port path query fragment rfl
    simp [hasScheme, hasAuthority]
  unfold assemble
  simp only [bind_eq_ok]
  constructor
  · rintro ⟨host, named, port, numbered, _, fits, assembled⟩
    have whole := (Except.ok.inj assembled).symm
    obtain ⟨scheme, front⟩ := known whole
    refine ⟨host, port, named, numbered, ?_, by rw [scheme, front]; exact fits⟩
    rw [scheme, front]
    exact whole
  · rintro ⟨host, port, named, numbered, whole, fits⟩
    obtain ⟨scheme, front⟩ := known whole
    rw [scheme, front] at fits whole
    exact ⟨host, named, port, numbered, (), fits, congrArg Except.ok whole.symm⟩

theorem isPathChar_of_mem_canonicalPath {fronted : Bool} {path : List Char} {c : Char}
    (member : c ∈ canonicalPath fronted path) : isPathChar c = true :=
  safe_requote (by decide) isPathChar_of_isHexDigit _ c member

theorem canonicalPath_eq (fronted : Bool) (path : List Char) :
    canonicalPath fronted path =
      encodeUnsafe isPathChar (if fronted then dropDots path else path) :=
  requote_eq_encodeUnsafe (by decide) isPathChar_of_isHexDigit _

theorem dropDots_canonicalPath (path : List Char) :
    dropDots (canonicalPath true path) = canonicalPath true path := by
  rw [canonicalPath_eq]
  exact dropDots_encodeUnsafe (by decide) fun _ member => (mem_splitOn_dropDots member).1

/-- A path that fits what stands in front of it still does in canonical form. -/
theorem checkPath_canonicalPath {path : List Char} {hasScheme hasAuthority : Bool}
    (fits : checkPath path hasScheme hasAuthority = .ok ()) :
    checkPath (canonicalPath (hasScheme || hasAuthority) path) hasScheme hasAuthority =
      .ok () := by
  obtain ⟨rooted, relative⟩ := checkPath_eq_ok.mp fits
  rw [canonicalPath_eq]
  refine checkPath_eq_ok.mpr ⟨fun front => ?_, fun schemeless bare => ?_⟩
  · refine isRooted_encodeUnsafe (by decide) ?_
    rw [front, Bool.or_true, if_pos rfl]
    exact isRooted_dropDots (rooted front)
  · obtain ⟨slashes, colon⟩ := relative schemeless bare
    rw [schemeless, bare, if_neg (by decide)]
    constructor
    · intro same
      obtain ⟨rest, shown⟩ : ∃ rest, encodeUnsafe isPathChar path = '/' :: '/' :: rest :=
        ⟨_, by rw [← List.take_append_drop 2 (encodeUnsafe isPathChar path), same]; rfl⟩
      obtain ⟨later, rfl, next⟩ := encodeUnsafe_eq_cons shown (by decide)
      obtain ⟨last, rfl, _⟩ := encodeUnsafe_eq_cons next.symm (by decide)
      exact slashes rfl
    · intro same
      obtain ⟨rest, shown⟩ := List.head?_eq_some_iff.mp same
      obtain ⟨later, rfl, _⟩ := encodeUnsafe_eq_cons shown (by decide)
      exact colon rfl

theorem hostForm_of_canonicalHost {host form : List Char}
    (uncut : ∀ c ∈ host, isCut c = false) (read : canonicalHost host = .ok form) :
    HostForm form := by
  rcases of_canonicalHost read with plain | ⟨rfl, six⟩
  · exact .name plain
  · exact .address six fun c member => uncut c (by simp [member])

theorem digits_of_canonicalPort {scheme text : String} {port : Int}
    (read : canonicalPort scheme text = .ok (some port)) :
    (Decimal.digits port.natAbs).length ≤ Decimal.digitLimit := by
  unfold canonicalPort at read
  split at read
  · cases read
  · split at read
    · cases read
    · next n number =>
        split at read
        · cases read
        · cases read
          exact Decimal.length_digits_of_readInteger number

/-- Whatever is put together is in canonical form. -/
theorem isCanonical_assemble
    (scheme : ∀ c ∈ parts.scheme, isSchemeChar c = true)
    (letter : ∀ c ∈ parts.scheme.head?, c.isAlpha = true)
    (uncut : ∀ c ∈ authority.host, isCut c = false)
    (assembled : assemble parts authority = .ok url) : url.IsCanonical := by
  obtain ⟨host, port, named, numbered, whole, fits⟩ := assemble_eq_ok.mp assembled
  have path : url.path.toList =
      canonicalPath (url.hasScheme || url.hasAuthority) parts.path := by
    rw [congrArg Url.path whole, String.toList_ofList]
  have small : url.scheme.toList = parts.scheme.map Char.toLower := by
    rw [congrArg Url.scheme whole, String.toList_ofList]
  constructor
  · rw [small]
    intro c member
    obtain ⟨d, among, rfl⟩ := List.mem_map.mp member
    exact ⟨(of_isSchemeChar (scheme d among)).2.2.1, (of_isSchemeChar (scheme d among)).2.2.2.1⟩
  · rw [small, List.head?_map]
    intro c member
    obtain ⟨d, first, rfl⟩ := Option.map_eq_some_iff.mp member
    exact (of_isSchemeChar (scheme d (List.mem_of_mem_head? first))).2.2.2.2 (letter d first)
  · exact hasPlainUserinfo_assemble assembled
  · rw [congrArg Url.host whole, String.toList_ofList]
    exact hostForm_of_canonicalHost uncut named
  · rw [congrArg Url.port whole]
    rintro port rfl
    exact digits_of_canonicalPort numbered
  · rw [path]
    exact fun c => isPathChar_of_mem_canonicalPath
  · rw [congrArg Url.query whole]
    intro query member
    obtain ⟨q, _, rfl⟩ := Option.map_eq_some_iff.mp member
    rw [String.toList_ofList]
    exact safe_requote (by decide) isQueryChar_of_isHexDigit q
  · rw [congrArg Url.fragment whole]
    intro fragment member
    obtain ⟨f, _, rfl⟩ := Option.map_eq_some_iff.mp member
    rw [String.toList_ofList]
    exact safe_requote (by decide) isFragmentChar_of_isHexDigit f
  · rw [path]
    exact checkPath_canonicalPath fits
  · intro fronted
    rw [path, fronted]
    exact dropDots_canonicalPath parts.path

theorem isCanonical_parse {text : String} (read : parse text = .ok url) : url.IsCanonical := by
  unfold parse at read
  dsimp only at read
  rw [ite_error_eq_ok] at read
  obtain ⟨_, read⟩ := read
  split at read
  · cases read
  · next uncontrolled =>
      have plain := firstControl?_eq_none.mp uncontrolled
      have shape := of_splitScheme text.toList
      refine isCanonical_assemble shape.1 shape.2.1 (fun c member => ?_) read
      obtain ⟨within, apart⟩ := of_mem_host member
      obtain ⟨among, slash, question, hash⟩ := of_mem_authority within
      simp [isCut, apart, slash, question, hash, plain c among]

/-! ## Changing components -/

theorem forM_eq_ok {α ε : Type} {check : α → Except ε Unit} {value : Option α} :
    value.forM check = .ok () ↔ ∀ x ∈ value, check x = .ok () := by
  cases value with
  | none => simp [Option.forM, pure, Except.pure]
  | some x => simp [Option.forM]

theorem uncut_shownHost (form : HostForm url.host.toList) :
    ∀ c ∈ url.shownHost, isCut c = false := by
  intro c member
  rw [shownHost] at member
  split at member
  · simp only [List.cons_append, List.mem_cons, List.mem_append, List.not_mem_nil,
      or_false] at member
    rcases member with rfl | within | rfl
    · decide
    · exact form.uncut c within
    · decide
  · exact form.uncut c member

theorem uncut_changedHost {host : String} (uncut : ∀ c ∈ host.toList, isCut c = false) :
    ∀ c ∈ changedHost host, isCut c = false := by
  intro c member
  unfold changedHost at member
  dsimp only at member
  split at member
  · simp only [List.cons_append, List.mem_cons, List.mem_append, List.not_mem_nil,
      or_false] at member
    rcases member with rfl | within | rfl
    · decide
    · exact uncut c within
    · decide
  · exact uncut c member

variable {c : Change}

/-- Changing components of a URL keeps its canonical form. -/
theorem isCanonical_change (canonical : url.IsCanonical)
    (uncut : ∀ host ∈ c.host, ∀ x ∈ host.toList, isCut x = false)
    (done : url.change c = .ok changed) : changed.IsCanonical := by
  unfold Url.change at done
  dsimp only at done
  simp only [bind_eq_ok] at done
  obtain ⟨_, _, _, _, _, _, _, _, _, _, _, _, assembled⟩ := done
  refine isCanonical_assemble (fun x member => (canonical.scheme x member).1) canonical.letter ?_
    assembled
  rw [authority_ofChars canonical.host]
  cases asked : c.host with
  | none => exact uncut_shownHost canonical.host
  | some host => exact uncut_changedHost (uncut host asked)

/-- A URL after its authority has been read anew. -/
def reviewed (url : Url) : Url :=
  { url with
    host := String.ofList (if url.host.toList.contains ':' then url.host.toList
      else url.host.toList.map Char.toLower)
    port := if impliedPort? url.scheme == url.port then none else url.port }

theorem canonicalPort_shownPort (canonical : url.IsCanonical) :
    canonicalPort url.scheme (String.ofList url.shownPort) = .ok url.reviewed.port := by
  rw [canonicalPort, shownPort, reviewed]
  cases written : url.port with
  | none => simp
  | some port =>
      have some : Decimal.integerText port ≠ "" := by
        intro none
        have chars : Decimal.integerChars port = [] := by
          simpa [Decimal.integerText] using none
        cases port with
        | ofNat n => exact Decimal.digits_ne_nil n chars
        | negSucc n => cases chars
      have whole : String.ofList (Decimal.integerChars port) = Decimal.integerText port := rfl
      rw [Option.elim_some, whole, if_neg (by simpa using some),
        Decimal.readInteger_integerText (canonical.port port written)]

theorem isEmpty_host_reviewed (url : Url) :
    url.reviewed.host.toList.isEmpty = url.host.toList.isEmpty := by
  simp only [reviewed, String.toList_ofList]
  split
  · rfl
  · exact List.isEmpty_map

theorem hasAuthority_of_reviewed (front : url.reviewed.hasAuthority = true) :
    url.hasAuthority = true := by
  rw [hasAuthority, isEmpty_host_reviewed] at front
  simp only [Bool.or_eq_true] at front
  simp only [hasAuthority, Bool.or_eq_true]
  refine front.imp_right fun numbered => ?_
  simp only [reviewed] at numbered
  split at numbered
  · cases numbered
  · exact numbered

/-- A port that is implied has a scheme in front of it. -/
theorem fronted_reviewed (url : Url) :
    (url.hasScheme || url.reviewed.hasAuthority) = (url.hasScheme || url.hasAuthority) := by
  cases scheme : url.hasScheme with
  | true => rfl
  | false =>
      have empty : url.scheme = "" := by simpa [hasScheme] using scheme
      have port : url.reviewed.port = url.port := by
        simp only [reviewed, empty]
        cases url.port <;> rfl
      rw [hasAuthority, hasAuthority, isEmpty_host_reviewed, port]
      rfl

namespace Change

def newPath (c : Change) (url : Url) : String := c.path.getD url.path

def newQuery (c : Change) (url : Url) : Option String := c.query <|> url.query

def newFragment (c : Change) (url : Url) : Option String := c.fragment <|> url.fragment

/-- What a change asks of a URL: its components, new and old ones, are not too long and have none of
the marks that end them, the host can be read, and the path fits what stands in front of it. -/
structure Suits (c : Change) (url : Url) : Prop where
  scheme : url.scheme.toList.length ≤ lengthLimit
  authority : url.authority.toList.length ≤ lengthLimit
  legible : url.IsLegible
  path : checkComponent "path" ['?', '#'] (c.newPath url).toList = .ok ()
  query : ∀ query ∈ c.newQuery url, checkComponent "query" ['#'] query.toList = .ok ()
  fragment : ∀ fragment ∈ c.newFragment url,
    checkComponent "fragment" [] fragment.toList = .ok ()
  fits : checkPath (c.newPath url).toList url.hasScheme url.reviewed.hasAuthority = .ok ()

/-- What a change makes of a URL. -/
def result (c : Change) (url : Url) : Url :=
  { url.reviewed with
    path := String.ofList
      (canonicalPath (url.hasScheme || url.hasAuthority) (c.newPath url).toList)
    query := (c.newQuery url).map fun query =>
      String.ofList (requote isQueryChar query.toList)
    fragment := (c.newFragment url).map fun fragment =>
      String.ofList (requote isFragmentChar fragment.toList) }

theorem result_eq (c : Change) (url : Url) :
    c.result url = { url.reviewed with
      path := String.ofList
        (canonicalPath (url.hasScheme || url.hasAuthority) (c.newPath url).toList)
      query := ((c.newQuery url).map String.toList).map fun q =>
        String.ofList (requote isQueryChar q)
      fragment := ((c.newFragment url).map String.toList).map fun f =>
        String.ofList (requote isFragmentChar f) } := by
  simp only [Option.map_map]
  rfl

end Change

theorem assemble_reviewed (canonical : url.IsCanonical) (shown path : List Char)
    (query fragment : Option (List Char)) :
    assemble ⟨url.scheme.toList, shown, path, query, fragment⟩
        (Authority.ofChars url.authority.toList) = .ok changed ↔
      url.IsLegible ∧ checkPath path url.hasScheme url.reviewed.hasAuthority = .ok () ∧
        changed = { url.reviewed with
          path := String.ofList (canonicalPath (url.hasScheme || url.hasAuthority) path)
          query := query.map fun q => String.ofList (requote isQueryChar q)
          fragment := fragment.map fun f => String.ofList (requote isFragmentChar f) } := by
  have scheme : String.ofList (url.scheme.toList.map Char.toLower) = url.scheme := by
    rw [List.map_congr_left (g := id) fun x member => (canonical.scheme x member).2, List.map_id,
      String.ofList_toList]
  have userinfo : String.ofList (requote isUserinfoChar url.userinfo.toList) = url.userinfo := by
    rw [requote_of_safe (by decide) canonical.userinfo, String.ofList_toList]
  rw [assemble_eq_ok, authority_ofChars canonical.host]
  simp only [String.ofList_toList, scheme, userinfo, canonicalPort_shownPort canonical,
    Except.ok.injEq]
  constructor
  · rintro ⟨host, port, named, rfl, whole, fits⟩
    have legible : url.IsLegible := by
      by_contra illegible
      rw [canonicalHost_of_not_isLegible illegible] at named
      cases named
    rw [canonicalHost_shownHost canonical.host legible] at named
    cases named
    have front : changed.hasScheme = url.hasScheme ∧
        changed.hasAuthority = url.reviewed.hasAuthority := by
      rw [whole]
      exact ⟨rfl, rfl⟩
    rw [front.1, front.2] at whole fits
    refine ⟨legible, fits, ?_⟩
    rw [← fronted_reviewed]
    exact whole
  · rintro ⟨legible, fits, whole⟩
    have front : changed.hasScheme = url.hasScheme ∧
        changed.hasAuthority = url.reviewed.hasAuthority := by
      rw [whole]
      exact ⟨rfl, rfl⟩
    refine ⟨_, _, canonicalHost_shownHost canonical.host legible, rfl, ?_,
      by rw [front.1, front.2]; exact fits⟩
    rw [front.1, front.2, fronted_reviewed]
    exact whole

theorem uncut_portPart (url : Url) : ∀ c ∈ url.portPart, isCut c = false := by
  have digit : ∀ {c : Char}, c.isDigit = true → isCut c = false := by
    intro c decimal
    have letter : c.isAlphanum = true := by simp [Char.isAlphanum, decimal]
    have table : ∀ n < 128, (Char.ofNat n).isDigit = true → isCut (Char.ofNat n) = false := by
      decide
    exact Text.forall_ascii (p := fun c => c.isDigit = true → isCut c = false) table
      (Text.ascii_of_isAlphanum letter) decimal
  intro c member
  rw [portPart] at member
  cases port : url.port with
  | none => simp [port] at member
  | some port' =>
      rw [port] at member
      rcases List.mem_cons.mp member with rfl | later
      · decide
      · cases port' with
        | ofNat n => exact digit (Decimal.isDigit_of_mem_digits later)
        | negSucc n =>
            rcases List.mem_cons.mp later with rfl | among
            · decide
            · exact digit (Decimal.isDigit_of_mem_digits among)

/-- The authority of a URL in canonical form ends where another part begins. -/
theorem uncut_of_mem_authority (canonical : url.IsCanonical) {c : Char}
    (member : c ∈ url.authority.toList) : c = '@' ∨ isCut c = false := by
  rw [Url.authority, String.toList_append, List.mem_append, toList_netloc, List.mem_append] at member
  rcases member with userinfo | host | port
  · split at userinfo
    · cases userinfo
    · rw [String.toList_append, List.mem_append] at userinfo
      rcases userinfo with within | sign
      · exact .inr (isCut_of_isUserinfoChar (canonical.userinfo c within))
      · exact .inl (List.mem_singleton.mp sign)
  · exact .inr (uncut_shownHost canonical.host c host)
  · exact .inr (uncut_portPart url c port)

theorem unmarked_of_mem_authority (canonical : url.IsCanonical) {c : Char}
    (member : c ∈ url.authority.toList) :
    Text.isAsciiControl c = false ∧ c ∉ ['/', '?', '#'] := by
  rcases uncut_of_mem_authority canonical member with rfl | uncut
  · decide
  · simp only [isCut, Bool.or_eq_false_iff, beq_eq_false_iff_ne] at uncut
    simp [uncut]

/-- What becomes of a URL in canonical form when components other than the host are changed. -/
theorem change_eq_ok (canonical : url.IsCanonical) (hostless : c.host = none) :
    url.change c = .ok changed ↔ c.Suits url ∧ changed = c.result url := by
  unfold Url.change
  simp only [bind_eq_ok, hostless]
  constructor
  · rintro ⟨_, scheme, _, authority, _, path, _, query, _, fragment, _, _, assembled⟩
    obtain ⟨legible, fits, whole⟩ := (assemble_reviewed canonical _ _ _ _).mp assembled
    rw [forM_eq_ok] at query fragment
    exact ⟨{
      scheme := (checkComponent_eq_ok.mp scheme).1
      authority := (checkComponent_eq_ok.mp authority).1
      legible := legible
      path := path
      query := fun q member => query _ (Option.mem_map_of_mem _ member)
      fragment := fun f member => fragment _ (Option.mem_map_of_mem _ member)
      fits := fits }, whole.trans (c.result_eq url).symm⟩
  · rintro ⟨suits, rfl⟩
    refine ⟨(), checkComponent_eq_ok.mpr ⟨suits.scheme, fun x member => ?_⟩,
      (), checkComponent_eq_ok.mpr ⟨suits.authority, fun x member => ?_⟩, (), suits.path,
      (), forM_eq_ok.mpr fun q member => ?_, (), forM_eq_ok.mpr fun f member => ?_, (), rfl,
      (assemble_reviewed canonical _ _ _ _).mpr ⟨suits.legible, suits.fits, ?_⟩⟩
    · exact ⟨(of_isSchemeChar (canonical.scheme x member).1).2.1, List.not_mem_nil⟩
    · exact unmarked_of_mem_authority canonical member
    · obtain ⟨query, among, rfl⟩ := Option.map_eq_some_iff.mp member
      exact suits.query query among
    · obtain ⟨fragment, among, rfl⟩ := Option.map_eq_some_iff.mp member
      exact suits.fragment fragment among
    · exact c.result_eq url

/-! ## Changing the query -/

theorem canonicalPath_path (canonical : url.IsCanonical) :
    String.ofList (canonicalPath (url.hasScheme || url.hasAuthority) url.path.toList) =
      url.path := by
  have undotted : (if url.hasScheme || url.hasAuthority then dropDots url.path.toList
      else url.path.toList) = url.path.toList := by
    split
    · next fronted => exact canonical.undotted fronted
    · rfl
  rw [canonicalPath, undotted, requote_of_safe (by decide) canonical.path, String.ofList_toList]

theorem fits_reviewed (canonical : url.IsCanonical) :
    checkPath url.path.toList url.hasScheme url.reviewed.hasAuthority = .ok () := by
  obtain ⟨rooted, relative⟩ := checkPath_eq_ok.mp canonical.fits
  have fronted := fronted_reviewed url
  refine checkPath_eq_ok.mpr
    ⟨fun front => rooted (hasAuthority_of_reviewed front), fun schemeless bare => ?_⟩
  rw [schemeless, bare] at fronted
  exact relative schemeless (Bool.or_eq_false_iff.mp fronted.symm).2

/-- Whether the components of a URL with another query are short enough to be changed. -/
def IsShort (url : Url) (query : String) : Prop :=
  ∀ component ∈ [url.scheme, url.authority, url.path, query, url.fragment.getD ""],
    component.toList.length ≤ lengthLimit

instance (url : Url) (query : String) : Decidable (url.IsShort query) := by
  unfold IsShort
  infer_instance

theorem suits_query_iff (canonical : url.IsCanonical) {query : String}
    (plain : ∀ c ∈ query.toList, isQueryChar c = true) :
    ({ query := some query } : Change).Suits url ↔ url.IsLegible ∧ url.IsShort query := by
  have path : ∀ c ∈ url.path.toList, Text.isAsciiControl c = false ∧ c ∉ ['?', '#'] := by
    intro c member
    have plain := canonical.path c member
    have visible := isQueryChar_of_isPathChar plain
    simp [not_control_of_isQueryChar visible, question_ne_of_isPathChar plain,
      hash_ne_of_isQueryChar visible]
  have marks : ∀ c ∈ query.toList, Text.isAsciiControl c = false ∧ c ∉ ['#'] := by
    intro c member
    simp [not_control_of_isQueryChar (plain c member), hash_ne_of_isQueryChar (plain c member)]
  constructor
  · intro suits
    refine ⟨suits.legible, ?_⟩
    simp only [IsShort, List.forall_mem_cons]
    refine ⟨suits.scheme, suits.authority, (checkComponent_eq_ok.mp suits.path).1,
      (checkComponent_eq_ok.mp (suits.query query rfl)).1, ?_, List.forall_mem_nil _⟩
    cases written : url.fragment with
    | none => exact Nat.zero_le _
    | some fragment => exact (checkComponent_eq_ok.mp (suits.fragment fragment written)).1
  · rintro ⟨legible, short⟩
    simp only [IsShort, List.forall_mem_cons] at short
    obtain ⟨scheme, authority, pathShort, queryShort, fragmentShort, _⟩ := short
    refine ⟨scheme, authority, legible, checkComponent_eq_ok.mpr ⟨pathShort, path⟩, ?_, ?_,
      fits_reviewed canonical⟩
    · intro other asked
      obtain rfl : query = other := Option.some.inj asked
      exact checkComponent_eq_ok.mpr ⟨queryShort, marks⟩
    · intro fragment kept
      have written : url.fragment = some fragment := kept
      rw [written] at fragmentShort
      refine checkComponent_eq_ok.mpr ⟨fragmentShort, fun c member => ⟨?_, List.not_mem_nil⟩⟩
      exact not_control_of_isFragmentChar (canonical.fragment fragment written c member)

theorem requote_fragment (canonical : url.IsCanonical) :
    (url.fragment.map fun fragment => String.ofList (requote isFragmentChar fragment.toList)) =
      url.fragment := by
  cases written : url.fragment with
  | none => rfl
  | some fragment =>
      rw [Option.map_some, requote_of_safe (by decide) (canonical.fragment fragment written),
        String.ofList_toList]

/-- Changing the query to one in canonical form changes nothing else, but for what becomes of the
authority. -/
theorem result_query (canonical : url.IsCanonical) {query : String}
    (plain : ∀ c ∈ query.toList, isQueryChar c = true) :
    ({ query := some query } : Change).result url = { url.reviewed with query := some query } := by
  have quoted : String.ofList (requote isQueryChar query.toList) = query := by
    rw [requote_of_safe (by decide) plain, String.ofList_toList]
  calc ({ query := some query } : Change).result url
      = { url.reviewed with
          path := String.ofList
            (canonicalPath (url.hasScheme || url.hasAuthority) url.path.toList)
          query := some (String.ofList (requote isQueryChar query.toList))
          fragment := url.fragment.map fun fragment =>
            String.ofList (requote isFragmentChar fragment.toList) } := rfl
    _ = { url.reviewed with query := some query } := by
        rw [canonicalPath_path canonical, quoted, requote_fragment canonical]
        rfl

/-! ## URLs that arise -/

/-- URLs that are read, and those that changes make of them. A new host has none of the characters
that an authority is cut at. -/
inductive Arises : Url → Prop where
  | read {text : String} {url : Url} (done : parse text = .ok url) : Arises url
  | changed {url changed : Url} {c : Change} (before : Arises url)
      (uncut : ∀ host ∈ c.host, ∀ x ∈ host.toList, isCut x = false)
      (done : url.change c = .ok changed) : Arises changed

theorem Arises.isCanonical (arises : url.Arises) : url.IsCanonical := by
  induction arises with
  | read done => exact isCanonical_parse done
  | changed _ uncut done canonical => exact isCanonical_change canonical uncut done

end BucketRegion.Url
