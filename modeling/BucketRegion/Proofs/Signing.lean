import BucketRegion.Signing.Signer

/-!
# What signing keeps, and when it succeeds

Signing changes headers only: the URL of a request is the same before and after, also if signing
fails half way. A signature of version 2 is always put in where the resource and the time can be
written, the access key is ASCII text and the secret key can be encoded, because everything else in it
is ASCII by construction.
-/

set_option autoImplicit false

namespace BucketRegion.Text

theorem findNotAscii?_eq_none {cs : List Char} (ascii : isAscii cs = true) (position : Nat) :
    findNotAscii? position cs = none := by
  induction cs generalizing position with
  | nil => rfl
  | cons c cs ih =>
      simp only [isAscii, List.all_cons, Bool.and_eq_true, decide_eq_true_eq] at ascii
      rw [findNotAscii?, if_pos ascii.1]
      exact ih ascii.2 (position + 1)

theorem notAscii?_eq_none {s : String} (ascii : isAscii s.toList = true) : notAscii? s = none :=
  findNotAscii?_eq_none ascii 0

theorem isAscii_append (left right : List Char) :
    isAscii (left ++ right) = (isAscii left && isAscii right) := by
  simp [isAscii]

theorem isAscii_cons (c : Char) (cs : List Char) :
    isAscii (c :: cs) = (decide (c.toNat < 0x80) && isAscii cs) := rfl

end BucketRegion.Text

namespace BucketRegion.Decimal

theorem isAscii_digitsPadded (width n : Nat) : Text.isAscii (digitsPadded width n) = true := by
  induction width generalizing n with
  | zero => rfl
  | succ width ih =>
      have table : ∀ d < 10, (digit d).toNat < 0x80 := by decide
      have last := table (n % 10) (Nat.mod_lt n (by decide))
      rw [digitsPadded, Text.isAscii_append, ih, Text.isAscii_cons]
      simp [last, Text.isAscii]

end BucketRegion.Decimal

namespace BucketRegion.Base64

theorem digit_ascii (n : Nat) : (digit n).toNat < 0x80 := by
  have table : ∀ d < 64, (digit d).toNat < 0x80 := by decide
  by_cases known : n < 64
  · exact table n known
  · have last : digit n = '/' := by
      have capital : ¬ n < 26 := by omega
      have small : ¬ n < 52 := by omega
      have number : ¬ n < 62 := by omega
      have plus : ¬ n = 62 := by omega
      simp [digit, capital, small, number, plus]
    rw [last]
    decide

theorem isAscii_encodeChars (octets : Bytes) : Text.isAscii (encodeChars octets) = true := by
  fun_induction encodeChars octets with
  | case1 => rfl
  | case2 a => simp [Text.isAscii, digit_ascii]
  | case3 a b => simp [Text.isAscii, digit_ascii]
  | case4 a b c rest ih => simp [Text.isAscii_cons, digit_ascii, ih]

end BucketRegion.Base64

namespace BucketRegion.Calendar

theorem isAscii_weekdayName (weekday : Nat) : Text.isAscii (weekdayName weekday).toList = true := by
  have table : ∀ d < 7, Text.isAscii (weekdayName d).toList = true := by decide
  by_cases known : weekday < 7
  · exact table weekday known
  · have unnamed : weekdayName weekday = "" := by
      simp [weekdayName, Array.getD, known]
    rw [unnamed]
    rfl

theorem isAscii_monthName (month : Nat) : Text.isAscii (monthName month).toList = true := by
  have table : ∀ m < 13, Text.isAscii (monthName m).toList = true := by decide
  by_cases known : month - 1 < 12
  · exact table month (by omega)
  · have unnamed : monthName month = "" := by
      simp [monthName, Array.getD, known]
    rw [unnamed]
    rfl

theorem isAscii_headerDate (instant : Instant) :
    Text.isAscii instant.headerDate.toList = true := by
  simp only [Instant.headerDate, String.toList_append, String.toList_ofList, Text.isAscii_append,
    Text.isAscii_cons, Decimal.isAscii_digitsPadded, isAscii_weekdayName, isAscii_monthName]
  decide

end BucketRegion.Calendar

namespace BucketRegion.Http.Request

theorem url_set {request changed : Request} {name value : String}
    (done : request.set name value = .ok changed) : changed.url = request.url := by
  unfold set at done
  cases headers : request.headers.set name value with
  | error problem => simp [headers, Except.map] at done
  | ok lines =>
      simp only [headers, Except.map, Except.ok.injEq] at done
      rw [← done]

theorem set_ascii (request : Request) (name : String) {value : String}
    (ascii : Text.isAscii value.toList = true) :
    ∃ changed, request.set name value = .ok changed := by
  have writable := Text.notAscii?_eq_none ascii
  have admitted : (if request.headers.asciiOnly then Text.notAscii? value else none) = none := by
    split
    · exact writable
    · rfl
  simp [set, Headers.set, admitted, Except.map]

end BucketRegion.Http.Request

namespace BucketRegion.Signing

open Http (Request)

theorem Outcome.url_setting {request : Request} {name value : String} {next : Request → Outcome}
    (kept : ∀ r : Request, (next r).request.url = r.url) :
    (Outcome.setting request name value next).request.url = request.url := by
  unfold setting
  split
  · next changed done => rw [kept changed, Request.url_set done]
  · rfl

theorem Outcome.problem_setting {request : Request} {name value : String}
    {next : Request → Outcome} (ascii : Text.isAscii value.toList = true)
    (goes : ∀ r : Request, (next r).problem = none) :
    (Outcome.setting request name value next).problem = none := by
  obtain ⟨changed, done⟩ := Request.set_ascii request name ascii
  simp only [setting, done]
  exact goes changed

theorem V2.url_sign (credentials : Credentials) (clock : Calendar.Reading) (request : Request) :
    (V2.sign credentials clock request).request.url = request.url := by
  unfold V2.sign
  split
  · rfl
  · split
    · rfl
    · dsimp only
      split
      · rfl
      · exact Outcome.url_setting fun _ => Outcome.url_setting fun _ => rfl

theorem V4.url_sign (credentials : Credentials) (clock : Calendar.Reading) (region : String)
    (request : Request) :
    (V4.sign credentials clock region request).request.url = request.url := by
  unfold V4.sign
  dsimp only
  split
  case' isFalse => refine Outcome.url_setting fun r => ?_
  all_goals
    split
    · rfl
    · split
      · rfl
      · split
        · rfl
        · exact Outcome.url_setting fun _ => Outcome.url_setting fun _ => rfl

/-- Whatever comes of signing, the URL stays. -/
theorem Signer.url_sign (signer : Signer) (clock : Calendar.Reading) (region : String)
    (request : Request) : (signer.sign clock region request).request.url = request.url := by
  unfold Signer.sign
  split
  · exact V4.url_sign signer.credentials clock region request
  · exact V2.url_sign signer.credentials clock request

/-- The older signature succeeds for every request whose resource can be written, if the keys can
be. -/
theorem V2.problem_sign {credentials : Credentials} {clock : Calendar.Reading}
    {request : Request} {url : Url} {instant : Calendar.Instant} {secret : Bytes}
    (resource : signingUrl request.url = .ok url) (time : clock.instant? = some instant)
    (key : Text.isAscii credentials.accessKey.toList = true)
    (encoded : Utf8.encode? credentials.secretKey = .ok secret) :
    (V2.sign credentials clock request).problem = none := by
  simp only [V2.sign, resource, time, encoded]
  apply Outcome.problem_setting (Calendar.isAscii_headerDate instant)
  intro r
  apply Outcome.problem_setting
  · simp only [String.toList_append, Text.isAscii_append, key, signature, Base64.encode,
      String.toList_ofList, Base64.isAscii_encodeChars]
    decide
  · intro r'
    rfl

theorem Signer.sign_of_v2 {signer : Signer} (older : signer.version = .v2)
    (clock : Calendar.Reading) (region : String) (request : Request) :
    signer.sign clock region request = V2.sign signer.credentials clock request := by
  simp only [Signer.sign, older]

end BucketRegion.Signing
