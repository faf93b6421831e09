import BucketRegion.Text.Ranges

/-!
# Writing direction

The direction in which the characters of host names are written, and the rule on labels that
hold characters written from right to left.
-/

set_option autoImplicit false

namespace BucketRegion.Idna

/-- Bidirectional classes, as far as labels can hold characters of them. -/
inductive Direction where
  | left
  | right
  | arabic
  | arabicNumber
  | number
  | separator
  | neutral
  | boundary
  | mark
  deriving Repr, DecidableEq

namespace Direction

/-- A class by its short name. -/
def ofName? : String → Option Direction
  | "L" => some left
  | "R" => some right
  | "AL" => some arabic
  | "AN" => some arabicNumber
  | "EN" => some number
  | "ES" => some separator
  | "ON" => some neutral
  | "BN" => some boundary
  | "NSM" => some mark
  | _ => none

/-- Reads entries `first-last=class` or `code=class`; code points between two entries are not
permitted in labels. -/
def runsOfText (text : String) : Array (Nat × Nat × Option Direction) :=
  ((Text.words text).filterMap fun entry =>
    match entry.splitOn "=" with
    | [range, name] =>
        match range.splitOn "-" with
        | [first, last] =>
            some (Text.hexNumber first.toList, Text.hexNumber last.toList, ofName? name)
        | _ => some (Text.hexNumber range.toList, Text.hexNumber range.toList, ofName? name)
    | _ => none).toArray

/-- The classes of the permitted characters; those without a class are not assigned. -/
def runs : Array (Nat × Nat × Option Direction) := runsOfText
  "2d=ES 30-39=EN 61-7a=L b7=ON df-2af=L 2b9-2ba=ON 2bb-2c1=L 2c6-2cf=ON 2d0-2d1=L 2ec=ON
    2ee=L 300-36f=NSM 371-373=L 375=ON 377-481=L 483-487=NSM 48b-588=L 591-5c7=NSM 5d0-5f4=R
    610-61a=NSM 620-64a=AL 64b-65f=NSM 660-669=AN 66e-66f=AL 670=NSM 671-6d5=AL 6d6-6e4=NSM
    6e5-6e6=AL 6e7-6ed=NSM 6ee-6ef=AL 6f0-6f9=EN 6fa-710=AL 711=NSM 712-72f=AL 730-74a=NSM
    74d-7a5=AL 7a6-7b0=NSM 7b1=AL 7c0-7ea=R 7eb-7f3=NSM 7f4-7f5=R 7fd=NSM 800-815=R
    816-819=NSM 81a=R 81b-823=NSM 824=R 825-827=NSM 828=R 829-82d=NSM 840-858=R 859-85b=NSM
    860-88e=AL 88f-897=none 898-89f=NSM 8a0-8c9=AL 8ca-902=NSM 903-939=L 93a=NSM 93b=L 93c=NSM
    93d-940=L 941-948=NSM 949-94c=L 94d=NSM 94e-950=L 951-957=NSM 960-961=L 962-963=NSM
    966-980=L 981=NSM 982-9b9=L 9bc=NSM 9bd-9c0=L 9c1-9c4=NSM 9c7-9cc=L 9cd=NSM 9ce-9e1=L
    9e2-9e3=NSM 9e6-9fc=L 9fe-a02=NSM a03-a39=L a3c=NSM a3e-a40=L a41-a51=NSM a5c-a6f=L
    a70-a71=NSM a72-a74=L a75-a82=NSM a83-ab9=L abc=NSM abd-ac0=L ac1-ac8=NSM ac9-acc=L
    acd=NSM ad0-ae1=L ae2-ae3=NSM ae6-af9=L afa-b01=NSM b02-b39=L b3c=NSM b3d-b3e=L b3f=NSM
    b40=L b41-b44=NSM b47-b4c=L b4d-b56=NSM b57-b61=L b62-b63=NSM b66-b71=L b82=NSM b83-bbf=L
    bc0=NSM bc1-bcc=L bcd=NSM bd0-bef=L c00=NSM c01-c03=L c04=NSM c05-c39=L c3c=NSM c3d=L
    c3e-c40=NSM c41-c44=L c46-c56=NSM c58-c5a=L c5c=none c5d-c61=L c62-c63=NSM c66-c80=L
    c81=NSM c82-cb9=L cbc=NSM cbd-ccb=L ccc-ccd=NSM cd5-cd6=L cdc=none cdd-ce1=L ce2-ce3=NSM
    ce6-cf2=L cf3=none d00-d01=NSM d02-d3a=L d3b-d3c=NSM d3d-d40=L d41-d44=NSM d46-d4c=L
    d4d=NSM d4e-d61=L d62-d63=NSM d66-d7f=L d81=NSM d82-dc6=L dca=NSM dcf-dd1=L dd2-dd6=NSM
    dd8-e30=L e31=NSM e32=L e34-e3a=NSM e40-e46=L e47-e4e=NSM e50-eb0=L eb1=NSM eb2=L
    eb4-ebc=NSM ebd-ec6=L ec8-ecd=NSM ece=none ed0-f0b=L f18-f19=NSM f20-f29=L f35-f39=NSM
    f3e-f6c=L f71-f7e=NSM f7f=L f80-f87=NSM f88-f8c=L f8d-fc6=NSM 1000-102c=L 102d-1030=NSM
    1031=L 1032-1037=NSM 1038=L 1039-103a=NSM 103b-103c=L 103d-103e=NSM 103f-1057=L
    1058-1059=NSM 105a-105d=L 105e-1060=NSM 1061-1070=L 1071-1074=NSM 1075-1081=L 1082=NSM
    1083-1084=L 1085-1086=NSM 1087-108c=L 108d=NSM 108e-109c=L 109d=NSM 10d0-135a=L
    135d-135f=NSM 1380-1711=L 1712-1714=NSM 1715-1731=L 1732-1733=NSM 1734-1751=L
    1752-1753=NSM 1760-1770=L 1772-1773=NSM 1780-17b6=L 17b7-17bd=NSM 17be-17c5=L 17c6=NSM
    17c7-17c8=L 17c9-17d3=NSM 17d7-17dc=L 17dd=NSM 17e0-1884=L 1885-1886=NSM 1887-18a8=L
    18a9=NSM 18aa-191e=L 1920-1922=NSM 1923-1926=L 1927-1928=NSM 1929-1931=L 1932=NSM
    1933-1938=L 1939-193b=NSM 1946-1a16=L 1a17-1a18=NSM 1a19-1a1a=L 1a1b=NSM 1a20-1a55=L
    1a56=NSM 1a57=L 1a58-1a60=NSM 1a61=L 1a62=NSM 1a63-1a64=L 1a65-1a6c=NSM 1a6d-1a72=L
    1a73-1a7f=NSM 1a80-1aa7=L 1ab0-1ace=NSM 1acf-1aeb=none 1b00-1b03=NSM 1b04-1b33=L 1b34=NSM
    1b35=L 1b36-1b3a=NSM 1b3b=L 1b3c=NSM 1b3d-1b41=L 1b42=NSM 1b43-1b59=L 1b6b-1b81=NSM
    1b82-1ba1=L 1ba2-1ba5=NSM 1ba6-1ba7=L 1ba8-1ba9=NSM 1baa=L 1bab-1bad=NSM 1bae-1be5=L
    1be6=NSM 1be7=L 1be8-1be9=NSM 1bea-1bec=L 1bed=NSM 1bee=L 1bef-1bf1=NSM 1bf2-1c2b=L
    1c2c-1c33=NSM 1c34-1c35=L 1c36-1c37=NSM 1c40-1c7d=L 1c8a=none 1cd0-1ce0=NSM 1ce1=L
    1ce2-1ce8=NSM 1ce9-1cec=L 1ced=NSM 1cee-1cf3=L 1cf4=NSM 1cf5-1cf7=L 1cf8-1cf9=NSM
    1cfa-1d9a=L 1dc0-1dff=NSM 1e01-1ff6=L 200c-200d=BN 214e-2cee=L 2cef-2cf1=NSM 2cf3-2d67=L
    2d7f=NSM 2d80-2dde=L 2de0-2dff=NSM 2e2f=ON 3005-3007=L 302a-302d=NSM 303c-3096=L
    3099-309a=NSM 309d-30fa=L 30fb=ON 30fc-a66e=L a66f-a67d=NSM a67f=ON a681-a69b=L
    a69e-a69f=NSM a6a0-a6e5=L a6f0-a6f1=NSM a717-a71f=ON a723-a787=L a788=ON a78c-a7ca=L
    a7cd-a7cf=none a7d1-a7d9=L a7db=none a7f6-a801=L a802=NSM a803-a805=L a806=NSM a807-a80a=L
    a80b=NSM a80c-a824=L a825-a826=NSM a827=L a82c=NSM a840-a8c3=L a8c4-a8c5=NSM a8d0-a8d9=L
    a8e0-a8f1=NSM a8f2-a8fe=L a8ff=NSM a900-a925=L a926-a92d=NSM a930-a946=L a947-a951=NSM
    a952-a953=L a980-a982=NSM a983-a9b2=L a9b3=NSM a9b4-a9b5=L a9b6-a9b9=NSM a9ba-a9bb=L
    a9bc-a9bd=NSM a9be-a9e4=L a9e5=NSM a9e6-aa28=L aa29-aa2e=NSM aa2f-aa30=L aa31-aa32=NSM
    aa33-aa34=L aa35-aa36=NSM aa40-aa42=L aa43=NSM aa44-aa4b=L aa4c=NSM aa4d-aa7b=L aa7c=NSM
    aa7d-aaaf=L aab0=NSM aab1=L aab2-aab4=NSM aab5-aab6=L aab7-aab8=NSM aab9-aabd=L
    aabe-aabf=NSM aac0=L aac1=NSM aac2-aaeb=L aaec-aaed=NSM aaee-aaf5=L aaf6=NSM ab01-abe4=L
    abe5=NSM abe6-abe7=L abe8=NSM abe9-abec=L abed=NSM abf0-fa29=L fb1e-fe2f=NSM fe73=AL
    10000-100fa=L 101fd=NSM 10280-102d0=L 102e0=NSM 10300-10375=L 10376-1037a=NSM
    10380-105bc=L 105c0-105f3=none 10600-10780=L 10800-10939=R 10940-10959=none 10980-10a00=R
    10a01-10a0f=NSM 10a10-10a35=R 10a38-10a3f=NSM 10a60-10ae4=R 10ae5-10ae6=NSM 10b00-10cf2=R
    10d00-10d23=AL 10d24-10d27=NSM 10d30-10d39=AN 10d40-10d85=none 10e80-10ea9=R
    10eab-10eac=NSM 10eb0-10eb1=R 10ec2-10eff=none 10f00-10f27=R 10f30-10f45=AL
    10f46-10f50=NSM 10f70-10f81=R 10f82-10f85=NSM 10fb0-10ff6=R 11000=L 11001=NSM
    11002-11037=L 11038-11046=NSM 11066-1106f=L 11070=NSM 11071-11072=L 11073-11074=NSM
    11075=L 1107f-11081=NSM 11082-110b2=L 110b3-110b6=NSM 110b7-110b8=L 110b9-110c2=NSM
    110d0-110f9=L 11100-11102=NSM 11103-11126=L 11127-1112b=NSM 1112c=L 1112d-11134=NSM
    11136-11172=L 11173=NSM 11176=L 11180-11181=NSM 11182-111b5=L 111b6-111be=NSM
    111bf-111c4=L 111c9-111cc=NSM 111ce=L 111cf=NSM 111d0-1122e=L 1122f-11231=NSM
    11232-11233=L 11234=NSM 11235=L 11236-1123e=NSM 1123f-11241=none 11280-112de=L 112df=NSM
    112e0-112e2=L 112e3-112ea=NSM 112f0-112f9=L 11300-11301=NSM 11302-11339=L 1133b-1133c=NSM
    1133d-1133f=L 11340=NSM 11341-11363=L 11366-11374=NSM 11380-113e2=none 11400-11437=L
    11438-1143f=NSM 11440-11441=L 11442-11444=NSM 11445=L 11446=NSM 11447-11459=L 1145e=NSM
    1145f-114b2=L 114b3-114b8=NSM 114b9=L 114ba=NSM 114bb-114be=L 114bf-114c0=NSM 114c1=L
    114c2-114c3=NSM 114c4-115b1=L 115b2-115b5=NSM 115b8-115bb=L 115bc-115bd=NSM 115be=L
    115bf-115c0=NSM 115d8-115db=L 115dc-115dd=NSM 11600-11632=L 11633-1163a=NSM 1163b-1163c=L
    1163d=NSM 1163e=L 1163f-11640=NSM 11644-116aa=L 116ab=NSM 116ac=L 116ad=NSM 116ae-116af=L
    116b0-116b5=NSM 116b6=L 116b7=NSM 116b8-116c9=L 116d0-116e3=none 11700-1171a=L
    1171d-1171f=NSM 11720-11721=L 11722-11725=NSM 11726=L 11727-1172b=NSM 11730-1182e=L
    1182f-11837=NSM 11838=L 11839-1183a=NSM 118c0-11938=L 1193b-1193c=NSM 1193d=L 1193e=NSM
    1193f-11942=L 11943=NSM 11950-119d3=L 119d4-119db=NSM 119dc-119df=L 119e0=NSM
    119e1-11a00=L 11a01-11a06=NSM 11a07-11a08=L 11a09-11a0a=NSM 11a0b-11a32=L 11a33-11a38=NSM
    11a39-11a3a=L 11a3b-11a47=NSM 11a50=L 11a51-11a56=NSM 11a57-11a58=L 11a59-11a5b=NSM
    11a5c-11a89=L 11a8a-11a96=NSM 11a97=L 11a98-11a99=NSM 11a9d-11af8=L 11b60-11bf9=none
    11c00-11c2f=L 11c30-11c3d=NSM 11c3e-11c8f=L 11c92-11ca7=NSM 11ca9=L 11caa-11cb0=NSM
    11cb1=L 11cb2-11cb3=NSM 11cb4=L 11cb5-11cb6=NSM 11d00-11d30=L 11d31-11d45=NSM 11d46=L
    11d47=NSM 11d50-11d8e=L 11d90-11d91=NSM 11d93-11d94=L 11d95=NSM 11d96=L 11d97=NSM
    11d98-11da9=L 11db0-11de9=none 11ee0-11ef2=L 11ef3-11ef4=NSM 11ef5-11ef6=L
    11f00-11f5a=none 11fb0-1342e=L 1342f-143fa=none 14400-14646=L 16100-16139=none
    16800-16aed=L 16af0-16af4=NSM 16b00-16b2f=L 16b30-16b36=NSM 16b40-16b8f=L 16d40-16d79=none
    16e60-16e7f=L 16ebb-16ed3=none 16f00-16f4a=L 16f4f=NSM 16f50-16f87=L 16f8f-16f92=NSM
    16f93-16fe3=L 16fe4=NSM 16ff0-16ff1=L 16ff2-16ff3=none 17000-187f7=L 187f8-187ff=none
    18800-18cd5=L 18cff=none 18d00-18d08=L 18d09-18df2=none 1aff0-1b122=L 1b132=none
    1b150-1b152=L 1b155=none 1b164-1bc99=L 1bc9d-1daaf=NSM 1df00-1df1e=L 1df25-1df2a=none
    1e000-1e02a=NSM 1e08f=none 1e100-1e12c=L 1e130-1e136=NSM 1e137-1e2ad=L 1e2ae=NSM
    1e2c0-1e2eb=L 1e2ec-1e2ef=NSM 1e2f0-1e2f9=L 1e4d0-1e6ff=none 1e7e0-1e7fe=L 1e800-1e8c4=R
    1e8d0-1e8d6=NSM 1e922-1e943=R 1e944-1e94a=NSM 1e94b-1e959=R 20000-2b738=L 2b739-2b73f=none
    2b740-2cea1=L 2cea2-2cead=none 2ceb0-2ebe0=L 2ebf0-2ee5d=none 30000-3134a=L
    31350-33479=none"

/-- The class of a permitted character. -/
def of? (c : Char) : Option Direction :=
  match runs.find? fun (first, last, _) => first ≤ c.toNat && c.toNat ≤ last with
  | some (_, _, direction) => direction
  | none => none

/-- Whether characters of the class make a label one that is written from right to left. -/
def isRightToLeft : Direction → Bool
  | right | arabic | arabicNumber => true
  | _ => false

end Direction

/-- How a label breaks the rule on writing direction; positions count from one. -/
inductive DirectionFault where
  | unknown (label : List Char) (position : Nat)
  | first (label : List Char)
  | inRightToLeft (position : Nat)
  | mixedNumerals
  | inLeftToRight (position : Nat)
  | ending
  deriving Repr, DecidableEq

/-- What is known of a label from right to left after some of its characters. -/
structure RightToLeftState where
  validEnding : Bool
  numerals : Option Direction

/-- Checks a label from right to left from `position` on. -/
def checkRightToLeft (state : RightToLeftState) (position : Nat) :
    List Direction → Except DirectionFault Bool
  | [] => .ok state.validEnding
  | d :: rest =>
      if d == .left then .error (.inRightToLeft position)
      else
        let validEnding :=
          if d == .right || d == .arabic || d == .number || d == .arabicNumber then true
          else if d == .mark then state.validEnding
          else false
        if d == .arabicNumber || d == .number then
          match state.numerals with
          | none => checkRightToLeft ⟨validEnding, some d⟩ (position + 1) rest
          | some before =>
              if before == d then
                checkRightToLeft ⟨validEnding, some d⟩ (position + 1) rest
              else .error .mixedNumerals
        else checkRightToLeft ⟨validEnding, state.numerals⟩ (position + 1) rest

/-- Checks a label from left to right from `position` on. -/
def checkLeftToRight (validEnding : Bool) (position : Nat) :
    List Direction → Except DirectionFault Bool
  | [] => .ok validEnding
  | d :: rest =>
      if d.isRightToLeft then .error (.inLeftToRight position)
      else
        let validEnding :=
          if d == .left || d == .number then true
          else if d == .mark then validEnding
          else false
        checkLeftToRight validEnding (position + 1) rest

/-- The classes of a label's characters, if all of them have one. -/
def directionsFrom (label : List Char) (position : Nat) :
    List Char → Except DirectionFault (List Direction)
  | [] => .ok []
  | c :: rest =>
      match Direction.of? c with
      | none => .error (.unknown label position)
      | some d => (directionsFrom label (position + 1) rest).map (d :: ·)

/-- The rule on writing direction: it binds labels with a character from right to left. Such a
label starts with a letter, keeps to the classes of one direction, does not mix two kinds of
numerals, and ends with a letter or number, marks aside. -/
def checkDirection (label : List Char) : Except DirectionFault Unit :=
  match directionsFrom label 1 label with
  | .error fault => .error fault
  | .ok directions =>
      if !directions.any Direction.isRightToLeft then .ok ()
      else
        let checked :=
          match directions with
          | .right :: _ | .arabic :: _ => checkRightToLeft ⟨false, none⟩ 1 directions
          | .left :: _ => checkLeftToRight false 1 directions
          | _ => .error (.first label)
        match checked with
        | .error fault => .error fault
        | .ok true => .ok ()
        | .ok false => .error .ending

end BucketRegion.Idna
