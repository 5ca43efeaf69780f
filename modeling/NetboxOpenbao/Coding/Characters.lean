/-!
# Deciding what holds of the symbols of a text

Whether all symbols of a text, or one of them, have a property is decided by going through the text.
-/

namespace Coding

instance decidableForallSymbol (text : List Char) (p : Char → Prop) [DecidablePred p] :
    Decidable (∀ c, c ∈ text → p c) :=
  List.decidableBAll p text

instance decidableExistsSymbol (text : List Char) (p : Char → Prop) [DecidablePred p] :
    Decidable (∃ c, c ∈ text ∧ p c) :=
  List.decidableBEx p text

end Coding
