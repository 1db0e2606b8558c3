import MarkdownTree.Processing.Alert
import Mathlib.Data.List.Infix

/-! Markers in a text: the search finds one exactly if there is one, and then the leftmost. -/

namespace MarkdownTree.AlertKind

/-- The marker of an alert as it stands in a text. -/
def written : AlertKind → String
  | note => "[!NOTE]"
  | tip => "[!TIP]"
  | important => "[!IMPORTANT]"
  | warning => "[!WARNING]"
  | caution => "[!CAUTION]"

/-- The marker of an alert is somewhere in a text. -/
def OccursIn (alert : AlertKind) (text : String) : Prop :=
  ∃ front back, text = front ++ alert.written ++ back

/-- The marker of an alert is in a text, and no marker is further to the left. -/
def FirstIn (alert : AlertKind) (text : String) : Prop :=
  ∃ front back, text = front ++ alert.written ++ back ∧
    ∀ (other : AlertKind) (front' back' : String), text = front' ++ other.written ++ back' →
      front.length ≤ front'.length

variable {alert other : AlertKind} {chars : List Char} {text : String}

/-- A marker is searched as it is written. -/
theorem toList_written (alert : AlertKind) : alert.written.toList = alert.marker := by
  cases alert <;> rfl

/-- No marker starts with another one. -/
theorem eq_of_starts_marker (start : alert.marker <+: other.marker) : alert = other := by
  rw [← List.isPrefixOf_iff_prefix] at start
  revert start
  cases alert <;> cases other <;> decide

/-- At most one marker starts a text. -/
theorem eq_of_starts_text (start : alert.marker <+: chars) (start' : other.marker <+: chars) :
    alert = other := by
  rcases List.prefix_or_prefix_of_prefix start start' with shorter | longer
  · exact eq_of_starts_marker shorter
  · exact (eq_of_starts_marker longer).symm

/-- The marker at the start of a text is found there. -/
theorem atStart?_eq_some_iff : atStart? chars = some alert ↔ alert.marker <+: chars := by
  have starts : ∀ {first : AlertKind}, atStart? chars = some first → first.marker <+: chars := by
    intro first found
    have tested := List.find?_some
      (found : all.find? (fun alert => alert.marker.isPrefixOf chars) = some first)
    exact List.isPrefixOf_iff_prefix.mp tested
  refine ⟨starts, fun start => ?_⟩
  cases found : atStart? chars with
  | none =>
    -- All alerts are tried.
    have tried : alert ∈ all := by cases alert <;> decide
    exact absurd (List.isPrefixOf_iff_prefix.mpr start) (List.find?_eq_none.mp found alert tried)
  | some first => rw [eq_of_starts_text (starts found) start]

/-- Nothing is found in a text exactly if no marker is in it. -/
theorem firstIn?_eq_none_iff :
    firstIn? chars = none ↔ ∀ alert : AlertKind, ¬ alert.marker <:+: chars := by
  induction chars with
  | nil => simp [firstIn?, marker]
  | cons c chars ih =>
    -- A marker is at the start or further to the right.
    simp only [List.infix_cons_iff, not_or, forall_and, ← ih, ← atStart?_eq_some_iff]
    rw [firstIn?]
    cases atStart? (c :: chars) with
    | none => simp
    | some first => simp

/-- What is found in a text is a marker with none further to the left. -/
theorem firstIn?_spec (found : firstIn? chars = some alert) :
    ∃ front back, chars = front ++ alert.marker ++ back ∧
      ∀ (other : AlertKind) (front' back' : List Char), chars = front' ++ other.marker ++ back' →
        front.length ≤ front'.length := by
  induction chars with
  | nil => cases found
  | cons c chars ih =>
    rw [firstIn?] at found
    cases start : atStart? (c :: chars) with
    | some first =>
      -- Nothing is further to the left than the start.
      rw [start] at found
      obtain ⟨back, whole⟩ := atStart?_eq_some_iff.mp start
      exact ⟨[], back, Option.some.inj found ▸ whole.symm, fun _ _ _ _ => Nat.zero_le _⟩
    | none =>
      rw [start] at found
      obtain ⟨front, back, whole, least⟩ := ih found
      refine ⟨c :: front, back, by rw [whole]; rfl, fun other front' back' whole' => ?_⟩
      cases front' with
      | nil =>
        -- No marker is at the start.
        have here : atStart? (c :: chars) = some other :=
          atStart?_eq_some_iff.mpr ⟨back', whole'.symm⟩
        rw [start] at here
        cases here
      | cons first front' =>
        exact Nat.succ_le_succ (least other front' back' (List.cons_eq_cons.mp whole').2)

/-- A marker is in a text exactly if its characters are among those of the text. -/
theorem occursIn_iff_infix : alert.OccursIn text ↔ alert.marker <:+: text.toList := by
  constructor
  · rintro ⟨front, back, rfl⟩
    exact ⟨front.toList, back.toList, by simp [toList_written]⟩
  · rintro ⟨front, back, whole⟩
    refine ⟨String.ofList front, String.ofList back, ?_⟩
    rw [← String.toList_inj, ← whole]
    simp [toList_written]

/-- Something is found in a text exactly if a marker is in it. -/
theorem isSome_firstIn?_iff :
    (firstIn? text.toList).isSome ↔ ∃ alert : AlertKind, alert.OccursIn text := by
  rw [Option.isSome_iff_ne_none, ne_eq, firstIn?_eq_none_iff, not_forall]
  exact exists_congr fun alert => not_not.trans occursIn_iff_infix.symm

/-- What is found in a text is its first marker. -/
theorem firstIn_of_firstIn? (found : firstIn? text.toList = some alert) : alert.FirstIn text := by
  obtain ⟨front, back, whole, least⟩ := firstIn?_spec found
  refine ⟨String.ofList front, String.ofList back, ?_, fun other front' back' whole' => ?_⟩
  · rw [← String.toList_inj, whole]
    simp [toList_written]
  · rw [String.length_ofList, ← String.length_toList]
    refine least other front'.toList back'.toList ?_
    rw [whole']
    simp [toList_written]

/-- The first marker of a text is in it. -/
theorem FirstIn.occursIn (first : alert.FirstIn text) : alert.OccursIn text := by
  obtain ⟨front, back, whole, _⟩ := first
  exact ⟨front, back, whole⟩

/-- At most one marker is the first of a text. -/
theorem FirstIn.unique (first : alert.FirstIn text) (first' : other.FirstIn text) :
    alert = other := by
  obtain ⟨front, back, whole, least⟩ := first
  obtain ⟨front', back', whole', least'⟩ := first'
  -- Both start at the same place, so both start what stands behind it.
  have same : front.toList.length = front'.toList.length := by
    rw [String.length_toList, String.length_toList]
    exact Nat.le_antisymm (least other front' back' whole') (least' alert front back whole)
  have split : front.toList ++ (alert.marker ++ back.toList) =
      front'.toList ++ (other.marker ++ back'.toList) := by
    have texts := congrArg String.toList (whole.symm.trans whole')
    simpa [toList_written] using texts
  have behind := (List.append_inj split same).2
  exact eq_of_starts_text ⟨back.toList, rfl⟩ ⟨back'.toList, behind.symm⟩

/-- What is found in a text is its first marker, and that is found. -/
theorem firstIn?_eq_some_iff : firstIn? text.toList = some alert ↔ alert.FirstIn text := by
  refine ⟨firstIn_of_firstIn?, fun first => ?_⟩
  obtain ⟨other, found⟩ := Option.isSome_iff_exists.mp
    (isSome_firstIn?_iff.mpr ⟨alert, first.occursIn⟩)
  rw [found, first.unique (firstIn_of_firstIn? found)]

end MarkdownTree.AlertKind
