import Scorebook.Conversation.Reply
import Scorebook.Proofs.Text.Trimming

/-!
# Replies in a fence

The blanks around a reply are taken off, and a fence if it is closed on both sides; a fence that is
open on one side stays. What is left is read, and its object is the intent. Main statement: a text
is as good as the same text in a fence, whatever reads the text.
-/

namespace Scorebook.Reply

/-- The opening of a fence with the word for JSON. -/
def markedFence : List Char := fence ++ "json".toList

/-- A text as it is, and in a fence in each of three ways. -/
def fencings (s : String) : List String :=
  [s, "```json" ++ s ++ "```", "```json\n" ++ s ++ "\n```", "```\n" ++ s ++ "\n```"]

/-- What a reply is without its blanks and its fence. -/
inductive Shows (content : List Char) : List Char → Prop
  /-- The reply is fenced, with the word for JSON. -/
  | marked {inner : List Char} (h : Text.trim content = markedFence ++ inner ++ fence) :
    Shows content (Text.trim inner)
  /-- It is fenced without the word. -/
  | fenced {inner : List Char} (hmark : ¬ markedFence <+: Text.trim content)
    (h : Text.trim content = fence ++ inner ++ fence) : Shows content (Text.trim inner)
  /-- It is not fenced on both sides. -/
  | plain (hmarked : ∀ inner, Text.trim content ≠ markedFence ++ inner ++ fence)
    (hfenced : markedFence <+: Text.trim content ∨
      ∀ inner, Text.trim content ≠ fence ++ inner ++ fence) : Shows content (Text.trim content)

/-- The object that a value stands for: the one in its field for the intent, or else itself. -/
inductive StandsFor (value : Json) : Json → Prop
  /-- There is an object in the field. -/
  | field {fields : List (String × Json)} (h : value.field? "intent" = some (.obj fields)) :
    StandsFor value (.obj fields)
  /-- There is none, and the value is an object. -/
  | itself {fields : List (String × Json)} (hvalue : value = .obj fields)
    (h : ∀ inner, value.field? "intent" ≠ some (.obj inner)) : StandsFor value (.obj fields)

variable {content bare rest inner : List Char} {value object : Json}

/-- The word for JSON belongs to the opening of a fence. -/
theorem behindFence?_eq_some_iff :
    behindFence? content = some rest ↔ content = markedFence ++ rest ∨
      ¬ markedFence <+: content ∧ content = fence ++ rest := by
  have hmarked : Text.dropOpening? markedFence content = none ↔ ¬ markedFence <+: content := by
    rw [Option.eq_none_iff_forall_ne_some]
    simp only [ne_eq, Text.dropOpening?_eq_some]
    exact ⟨fun h ⟨rest, hrest⟩ => h rest hrest.symm, fun h rest hrest => h ⟨rest, hrest.symm⟩⟩
  rw [behindFence?, ← markedFence, Option.or_eq_some_iff, Text.dropOpening?_eq_some,
    Text.dropOpening?_eq_some, hmarked]

/-- Behind the opening of a fence there are no blanks to trim at the end. -/
theorem trimEnd_of_behindFence? (h : behindFence? (Text.trim content) = some rest) :
    Text.trimEnd rest = rest := by
  obtain ⟨opening, hopening⟩ : ∃ opening, Text.trim content = opening ++ rest := by
    rcases behindFence?_eq_some_iff.1 h with hmarked | ⟨-, hfenced⟩
    · exact ⟨_, hmarked⟩
    · exact ⟨_, hfenced⟩
  apply Text.trimEnd_eq_self
  intro c hc
  apply (Text.trimmed_trim content).last c
  rw [hopening, List.getLast?_append, hc]
  rfl

/-- A fence that is closed is taken off. -/
theorem unfenced_of_closed
    (h : behindFence? (Text.trim content) = some (inner ++ fence)) : unfenced content = inner := by
  have hclosing : Text.dropClosing? fence (inner ++ fence) = some inner :=
    Text.dropClosing?_eq_some.2 rfl
  simp only [unfenced, h, Option.bind_some, trimEnd_of_behindFence? h, hclosing, Option.getD_some]

/-- A fence that is not closed stays. -/
theorem unfenced_of_open
    (h : ∀ inner, behindFence? (Text.trim content) ≠ some (inner ++ fence)) :
    unfenced content = Text.trim content := by
  have hnone : ((behindFence? (Text.trim content)).bind fun rest =>
      Text.dropClosing? fence (Text.trimEnd rest)) = none := by
    rw [Option.eq_none_iff_forall_ne_some]
    intro inner hinner
    obtain ⟨rest, hopening, hclosing⟩ := Option.bind_eq_some_iff.1 hinner
    rw [trimEnd_of_behindFence? hopening] at hclosing
    obtain rfl := Text.dropClosing?_eq_some.1 hclosing
    exact h inner hopening
  simp only [unfenced, hnone, Option.getD_none]

/-- What a reply shows is what is left when its fence and the blanks inside are taken off. -/
theorem Shows.eq (h : Shows content bare) : bare = Text.trim (unfenced content) := by
  cases h with
  | @marked inner h =>
    have hopening : behindFence? (Text.trim content) = some (inner ++ fence) :=
      behindFence?_eq_some_iff.2 (Or.inl (h.trans (List.append_assoc ..)))
    rw [unfenced_of_closed hopening]
  | @fenced inner hmark h =>
    have hopening : behindFence? (Text.trim content) = some (inner ++ fence) :=
      behindFence?_eq_some_iff.2 (Or.inr ⟨hmark, h.trans (List.append_assoc ..)⟩)
    rw [unfenced_of_closed hopening]
  | plain hmarked hfenced =>
    have hopen : ∀ inner, behindFence? (Text.trim content) ≠ some (inner ++ fence) := by
      intro inner hopening
      rcases behindFence?_eq_some_iff.1 hopening with h | ⟨hmark, h⟩
      · exact hmarked inner (h.trans (List.append_assoc ..).symm)
      · exact hfenced.resolve_left hmark inner (h.trans (List.append_assoc ..).symm)
    rw [unfenced_of_open hopen, (Text.trimmed_trim content).trim_eq_self]

/-- Every reply shows something. -/
theorem exists_shows (content : List Char) : ∃ bare, Shows content bare := by
  by_cases hmarked : ∃ inner, Text.trim content = markedFence ++ inner ++ fence
  · obtain ⟨inner, h⟩ := hmarked
    exact ⟨_, .marked h⟩
  · by_cases hmark : markedFence <+: Text.trim content
    · exact ⟨_, .plain (not_exists.1 hmarked) (Or.inl hmark)⟩
    · by_cases hfenced : ∃ inner, Text.trim content = fence ++ inner ++ fence
      · obtain ⟨inner, h⟩ := hfenced
        exact ⟨_, .fenced hmark h⟩
      · exact ⟨_, .plain (not_exists.1 hmarked) (Or.inr (not_exists.1 hfenced))⟩

/-- What a reply shows is what is left of it. -/
theorem shows_iff : Shows content bare ↔ bare = Text.trim (unfenced content) := by
  constructor
  · exact Shows.eq
  · rintro rfl
    obtain ⟨bare, hshows⟩ := exists_shows content
    exact hshows.eq ▸ hshows

/-- The object that a value stands for is found in its field for the intent, or is the value. -/
theorem standsFor_iff :
    StandsFor value object ↔ unwrapped value = object ∧ object.isObject = true := by
  have hitself (h : ∀ inner, value.field? "intent" ≠ some (.obj inner)) :
      unwrapped value = value := by
    unfold unwrapped
    split
    · rename_i inner hfield
      exact absurd hfield (h inner)
    · rfl
  constructor
  · rintro (hfield | ⟨rfl, h⟩)
    · rw [unwrapped, hfield]
      exact ⟨rfl, rfl⟩
    · exact ⟨hitself h, rfl⟩
  · rintro ⟨rfl, hobject⟩
    by_cases hfield : ∃ inner, value.field? "intent" = some (.obj inner)
    · obtain ⟨inner, hinner⟩ := hfield
      rw [unwrapped, hinner]
      exact .field hinner
    · have h := not_exists.1 hfield
      rw [hitself h] at hobject ⊢
      cases value with
      | obj fields => exact .itself rfl h
      | _ => cases hobject

/-- The object of a reply is the one that the value read from what it shows stands for. -/
theorem objectBy?_eq_some_iff {parse? : String → Option Json} {content : String} :
    objectBy? parse? content = some object ↔ ∃ bare value,
      Shows content.toList bare ∧ parse? (String.ofList bare) = some value ∧
        StandsFor value object := by
  rw [objectBy?, Option.filter_eq_some_iff, Option.map_eq_some_iff]
  constructor
  · rintro ⟨⟨value, hread, hvalue⟩, hobject⟩
    exact ⟨_, value, shows_iff.2 rfl, hread, standsFor_iff.2 ⟨hvalue, hobject⟩⟩
  · rintro ⟨bare, value, hshows, hread, hstands⟩
    obtain rfl := hshows.eq
    obtain ⟨hvalue, hobject⟩ := standsFor_iff.1 hstands
    exact ⟨⟨value, hread, hvalue⟩, hobject⟩

/-- A text in a fence starts and ends with no blank. -/
theorem trimmed_fenced (inner : List Char) : Text.Trimmed (fence ++ inner ++ fence) where
  head c hc := by
    obtain rfl : '\x60' = c := Option.some.inj hc
    decide
  last c hc := by
    rw [List.getLast?_append] at hc
    obtain rfl : '\x60' = c := Option.some.inj hc
    decide

/-- A text in a fence with the word for JSON is shown. -/
theorem shows_marked (inner : List Char) :
    Shows (markedFence ++ inner ++ fence) (Text.trim inner) := by
  apply Shows.marked
  have htrimmed := trimmed_fenced ("json".toList ++ inner)
  rw [← List.append_assoc, ← markedFence] at htrimmed
  exact htrimmed.trim_eq_self

/-- A text in a fence without the word is shown, if the fence does not end up with the word. -/
theorem shows_fenced (h : ¬ markedFence <+: fence ++ inner ++ fence) :
    Shows (fence ++ inner ++ fence) (Text.trim inner) := by
  have htrim := (trimmed_fenced inner).trim_eq_self
  exact .fenced (htrim.symm ▸ h) htrim

/-- A text that opens no fence is shown as it is. -/
theorem shows_of_not_opens (h : ¬ fence <+: Text.trim content) :
    Shows content (Text.trim content) := by
  refine .plain (fun inner hinner => h ?_) (Or.inr fun inner hinner => h ?_)
  · rw [hinner, markedFence, List.append_assoc, List.append_assoc]
    exact List.prefix_append ..
  · rw [hinner, List.append_assoc]
    exact List.prefix_append ..

/-- A text that opens no fence is shown, in a fence or not. -/
theorem shows_of_mem_fencings {s w : String} (hopen : ¬ fence <+: Text.trim s.toList)
    (hw : w ∈ fencings s) : Shows w.toList (Text.trim s.toList) := by
  have hnewline : Text.AllBlank ['\n'] := by
    intro c hc
    obtain rfl := List.mem_singleton.1 hc
    decide
  have hlines : Text.trim (['\n'] ++ s.toList ++ ['\n']) = Text.trim s.toList :=
    Text.trim_surrounded hnewline hnewline
  simp only [fencings, List.mem_cons, List.not_mem_nil, or_false] at hw
  rcases hw with rfl | rfl | rfl | rfl
  · exact shows_of_not_opens hopen
  · have hchars : ("```json" ++ s ++ "```").toList = markedFence ++ s.toList ++ fence := by
      simp only [String.toList_append]
      rfl
    rw [hchars]
    exact shows_marked s.toList
  · have hchars : ("```json\n" ++ s ++ "\n```").toList =
        markedFence ++ (['\n'] ++ s.toList ++ ['\n']) ++ fence := by
      simp only [String.toList_append, List.append_assoc]
      rfl
    rw [hchars, ← hlines]
    exact shows_marked _
  · have hchars : ("```\n" ++ s ++ "\n```").toList =
        fence ++ (['\n'] ++ s.toList ++ ['\n']) ++ fence := by
      simp only [String.toList_append, List.append_assoc]
      rfl
    rw [hchars, ← hlines]
    apply shows_fenced
    rintro ⟨rest, hrest⟩
    cases hrest

/-- Whatever reads a text, it is read the same in a fence, in blanks, and as it is, unless it opens
a fence itself. A reply has an object exactly if the value read from what it shows stands for one:
the object in the field for the intent, or else the value itself. -/
theorem objectBy?_unwraps (parse? : String → Option Json) :
    (∀ s w before after : String, ¬ fence <+: Text.trim s.toList → w ∈ fencings s →
        Text.AllBlank before.toList → Text.AllBlank after.toList →
        objectBy? parse? (before ++ w ++ after) = objectBy? parse? s) ∧
      ∀ (content : String) (object : Json),
        (objectBy? parse? content = some object → object.isObject = true) ∧
        (objectBy? parse? content = some object ↔ ∃ bare value,
          Shows content.toList bare ∧ parse? (String.ofList bare) = some value ∧
            StandsFor value object) := by
  refine ⟨fun s w before after hopen hw hbefore hafter => ?_, fun content object =>
    ⟨fun h => ?_, objectBy?_eq_some_iff⟩⟩
  · have htrim : Text.trim (before ++ w ++ after).toList = Text.trim w.toList := by
      rw [String.toList_append, String.toList_append]
      exact Text.trim_surrounded hbefore hafter
    have hshown : Text.trim (unfenced (before ++ w ++ after).toList) =
        Text.trim (unfenced s.toList) := by
      rw [unfenced, htrim, ← unfenced, ← (shows_of_mem_fencings hopen hw).eq,
        ← (shows_of_not_opens hopen).eq]
    rw [objectBy?, hshown, ← objectBy?]
  · obtain ⟨-, value, -, -, hstands⟩ := objectBy?_eq_some_iff.1 h
    exact (standsFor_iff.1 hstands).2

/-- An intent inside a field. -/
def wrappedSeason : String := "\x7b\"intent\": \x7b\"season\": 2024\x7d\x7d"

/-- In a fence and wide blanks it is the same intent. -/
theorem object?_fencedSeason :
    ¬ fence <+: Text.trim wrappedSeason.toList ∧
      "```\n" ++ wrappedSeason ++ "\n```" ∈ fencings wrappedSeason ∧
      object? ("\u3000\n" ++ ("```\n" ++ wrappedSeason ++ "\n```") ++ "\u00A0") =
        some (.obj [("season", .int 2024)]) := by
  have hopen : ¬ fence <+: Text.trim wrappedSeason.toList := by decide
  have hfenced : "```\n" ++ wrappedSeason ++ "\n```" ∈ fencings wrappedSeason :=
    List.mem_of_getElem? (i := 3) rfl
  have hbefore : Text.AllBlank "\u3000\n".toList := by decide
  have hafter : Text.AllBlank "\u00A0".toList := by decide
  have hbare : object? wrappedSeason = some (.obj [("season", .int 2024)]) := by
    with_unfolding_all rfl
  exact ⟨hopen, hfenced,
    ((objectBy?_unwraps Json.parse?).1 _ _ _ _ hopen hfenced hbefore hafter).trans hbare⟩

end Scorebook.Reply
