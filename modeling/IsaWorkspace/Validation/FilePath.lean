import IsaWorkspace.Validation.Validators

/-
  Confinement of file paths.

  A path is compared with the base directory only if both of
  them resolve.  A path at which there is nothing yet is
  accepted wherever it is.

  Main declarations:
    * `filePathErrors_isEmpty_iff`, `validateFilePath_ok_iff`
    * `Confined`, `confined_iff`
-/

------------------------------------------------------------
-- Accepted Paths
------------------------------------------------------------

namespace IsaWorkspace

variable {canonicalize : String → Option (List String)}
variable {path baseDir : String}

namespace ValidationErrors

/- With an error added there are errors. -/
@[simp]
theorem isEmpty_add
    (collected : ValidationErrors)
    (field message : String)
    (rule : ValidationRule) :
    (collected.add field message rule).isEmpty = false := by
  unfold add isEmpty
  exact List.isEmpty_eq_false_iff.mpr
    (List.append_ne_nil_of_right_ne_nil _
      (List.cons_ne_nil _ _))

@[simp]
theorem isEmpty_new : new.isEmpty = true := rfl

theorem refuseOr_ok_iff
    {α : Type}
    (collected : ValidationErrors)
    (value : α) :
    collected.refuseOr value = .ok value ↔
      collected.isEmpty = true := by
  unfold refuseOr
  split
  · next hEmpty => exact iff_of_true rfl hEmpty
  · next hSome => exact iff_of_false nofun hSome

end ValidationErrors

/- Texts that are refused whatever there is at them. -/
def TextRefused
    (path : String) : Prop :=
  path = "" ∨ 512 < path.utf8ByteSize ∨
    ['.', '.'] <:+: path.toList

/- The base is compared with what both of them resolve to. -/
theorem filePathErrors_isEmpty_iff :
    (filePathErrors canonicalize path baseDir).isEmpty =
        true ↔
      ¬ 512 < path.utf8ByteSize ∧
        ¬ ['.', '.'] <:+: path.toList ∧
        ∀ reached base,
          canonicalize path = some reached →
            canonicalize baseDir = some base →
              base <+: reached := by
  unfold filePathErrors
  dsimp only
  by_cases hLong : 512 < path.utf8ByteSize
  · rw [if_pos hLong]
    refine iff_of_false ?_ fun hAccepted =>
      hAccepted.1 hLong
    repeat' split
    all_goals simp
  rw [if_neg hLong]
  by_cases hDots : ['.', '.'] <:+: path.toList
  · rw [if_pos hDots]
    refine iff_of_false ?_ fun hAccepted =>
      hAccepted.2.1 hDots
    repeat' split
    all_goals simp
  rw [if_neg hDots]
  cases hPath : canonicalize path with
  | none => simp [hLong, hDots]
  | some reached =>
      cases hBase : canonicalize baseDir with
      | none => simp [hLong, hDots]
      | some base =>
          dsimp only
          by_cases hWithin : base <+: reached
          · simp [hLong, hDots, hWithin]
          · simp [hWithin]

theorem validateFilePath_ok_iff :
    validateFilePath canonicalize path baseDir = .ok () ↔
      ¬ TextRefused path ∧
        ∀ reached base,
          canonicalize path = some reached →
            canonicalize baseDir = some base →
              base <+: reached := by
  unfold validateFilePath TextRefused
  by_cases hEmpty : path = ""
  · rw [if_pos hEmpty]
    exact iff_of_false nofun fun hAccepted =>
      hAccepted.1 (Or.inl hEmpty)
  · rw [if_neg hEmpty,
      ValidationErrors.refuseOr_ok_iff,
      filePathErrors_isEmpty_iff, not_or, not_or]
    constructor
    · rintro ⟨hLong, hDots, hWithin⟩
      exact ⟨⟨hEmpty, hLong, hDots⟩, hWithin⟩
    · rintro ⟨⟨_, hLong, hDots⟩, hWithin⟩
      exact ⟨hLong, hDots, hWithin⟩

------------------------------------------------------------
-- Confinement
------------------------------------------------------------

/- The directory a path is created in. -/
def parentDir
    (path : String) : Option String :=
  (LocalBackend.parent path).map fun dir =>
    if dir = "" then "." else dir

/- The base exists, and so does the parent, within it. -/
def ParentConfined
    (canonicalize : String → Option (List String))
    (path baseDir : String) : Prop :=
  ∃ base dir reached,
    canonicalize baseDir = some base ∧
      parentDir path = some dir ∧
      canonicalize dir = some reached ∧
      base <+: reached

/-
  A path is within the base directory where it resolves, and
  otherwise it would be created within it.
-/
def Confined
    (canonicalize : String → Option (List String))
    (path baseDir : String) : Prop :=
  match canonicalize path with
  | some reached =>
      ∃ base,
        canonicalize baseDir = some base ∧ base <+: reached
  | none => ParentConfined canonicalize path baseDir

/-
  Accepted paths are confined exactly if they are not
  accepted for their texts, if there is something at the path
  and at the base, or if the parent of a new path happens to
  be within the base.
-/
theorem confined_iff
    (canonicalize : String → Option (List String))
    (path baseDir : String) :
    (validateFilePath canonicalize path baseDir = .ok () →
        Confined canonicalize path baseDir) ↔
      TextRefused path ∨
        ((canonicalize path).isSome ∧
          (canonicalize baseDir).isSome) ∨
        (canonicalize path = none ∧
          ParentConfined canonicalize path baseDir) := by
  rw [validateFilePath_ok_iff]
  unfold Confined
  by_cases hText : TextRefused path
  · exact iff_of_true (fun hAccepted =>
      absurd hText hAccepted.1) (Or.inl hText)
  cases hPath : canonicalize path with
  | none =>
      dsimp only
      constructor
      · intro hConfined
        refine Or.inr (Or.inr ⟨rfl, hConfined ⟨hText, ?_⟩⟩)
        nofun
      · rintro (hRefused | ⟨hSome, _⟩ | ⟨_, hParent⟩) _
        · exact absurd hRefused hText
        · cases hSome
        · exact hParent
  | some reached =>
      dsimp only
      cases hBase : canonicalize baseDir with
      | none =>
          refine iff_of_false ?_ ?_
          · intro hConfined
            rcases hConfined ⟨hText, nofun⟩ with ⟨_, ⟨⟩, _⟩
          · rintro (hRefused | ⟨_, hSome⟩ | ⟨hNone, _⟩)
            · exact hText hRefused
            · cases hSome
            · cases hNone
      | some base =>
          refine iff_of_true ?_ (Or.inr (Or.inl ⟨rfl, rfl⟩))
          rintro ⟨_, hWithin⟩
          exact ⟨base, rfl, hWithin reached base rfl rfl⟩

/- There are two directories and nothing else. -/
def twoDirectories : String → Option (List String)
| "/" => some []
| "/data" => some ["data"]
| "/etc" => some ["etc"]
| _ => none

/- A new file elsewhere is accepted. -/
theorem confined_newFile :
    validateFilePath twoDirectories "/etc/newfile" "/data" =
        .ok () ∧
      ¬ Confined twoDirectories "/etc/newfile" "/data" := by
  refine ⟨by decide +kernel, ?_⟩
  rintro ⟨base, dir, reached, hBase, hDir, hReached, hWithin⟩
  have hParent : parentDir "/etc/newfile" = some "/etc" := by
    decide +kernel
  rw [hParent] at hDir
  cases hBase
  cases hDir
  cases hReached
  revert hWithin
  decide

end IsaWorkspace
