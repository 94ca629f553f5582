import Mathlib.Data.Set.List
import Scorebook.Proofs.Intent.Acceptance
import Scorebook.Proofs.Intent.Written

/-!
# Two readers of one form

A proposal can be read plainly, by the types of its fields, or it can be validated. The readers
differ in what they accept: the plain one knows no ranges and no catalogue, and for validation a
single inning is as good as a list and `null` as good as nothing. Where both accept a proposal they
read the same intent, but that validation drops what is repeated and an empty name.
-/

namespace Scorebook

namespace Intent

section fields

variable {fields : List (String × Json)} {field : IntentField} {α β : Type}
  {check : IntentField → Json → Except Rejection α} {read? : Json → Option β}

variable {write : α → Json} {valid : α → Prop} {wide : β → α}

end fields

end Intent

namespace Catalogue

variable {c : Catalogue} {fields : List (String × Json)} {intent written : Intent}

end Catalogue

end Scorebook
