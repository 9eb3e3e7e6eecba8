import Mathlib.Logic.Basic

set_option autoImplicit false

/-!
# Texts

How it is decided whether a text is one of a list of texts.
-/
namespace BacklinkPublisher.Texts

scoped instance lawfulTexts : LawfulBEq (List Char) := inferInstance

scoped instance lawfulPairs : LawfulBEq (String × String) := inferInstance

end BacklinkPublisher.Texts
