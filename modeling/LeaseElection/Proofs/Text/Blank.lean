import LeaseElection.Text.Basic

namespace LeaseElection.Text

variable {cs core text before : List Char} {s : String}

def Blanks (cs : List Char) : Prop := ∀ c ∈ cs, isBlank c = true

/-- The core of a text, which blanks surround. -/
structure IsCore (core text : List Char) : Prop where
  surrounded : ∃ before after, Blanks before ∧ Blanks after ∧ text = before ++ core ++ after
  first : ∀ c ∈ core.head?, isBlank c = false
  last : ∀ c ∈ core.getLast?, isBlank c = false

theorem exists_blanks_trimStart (cs : List Char) :
    ∃ before, Blanks before ∧ cs = before ++ trimStart cs := by
  refine ⟨cs.takeWhile isBlank, ?_, List.takeWhile_append_dropWhile.symm⟩
  exact List.all_eq_true.mp List.all_takeWhile

theorem head?_trimStart : ∀ c ∈ (trimStart cs).head?, isBlank c = false := by
  intro c first
  have unblank := List.head?_dropWhile_not isBlank cs
  rw [show (cs.dropWhile isBlank).head? = some c from first] at unblank
  exact unblank

theorem trimStart_append (blanks : Blanks before)
    (first : ∀ c ∈ cs.head?, isBlank c = false) : trimStart (before ++ cs) = cs := by
  rw [trimStart, List.dropWhile_append_of_pos blanks]
  cases cs with
  | nil => rfl
  | cons c rest => exact List.dropWhile_cons_of_neg (by simp [first c rfl])

theorem isCore_trim (text : List Char) : IsCore (trim text) text := by
  obtain ⟨before, leading, start⟩ := exists_blanks_trimStart text
  obtain ⟨after, trailing, finish⟩ := exists_blanks_trimStart (trimStart text).reverse
  have rest : trimStart text = trim text ++ after.reverse := by
    rw [trim, ← List.reverse_append, ← finish, List.reverse_reverse]
  refine ⟨⟨before, after.reverse, leading, ?_, ?_⟩, ?_, ?_⟩
  · intro c member
    exact trailing c (List.mem_reverse.mp member)
  · rw [List.append_assoc, ← rest]
    exact start
  · intro c first
    have start : (trimStart text).head? = some c := by
      rw [rest, List.head?_append, Option.mem_def.mp first]
      rfl
    exact head?_trimStart c start
  · intro c last
    rw [trim, List.getLast?_reverse] at last
    exact head?_trimStart c last

/-- Trimming leaves the core, and there is no other. -/
theorem isCore_iff : IsCore core text ↔ core = trim text := by
  refine ⟨?_, fun trimmed => trimmed ▸ isCore_trim text⟩
  rintro ⟨⟨before, after, leading, trailing, rfl⟩, first, last⟩
  have behind : Blanks after.reverse := fun c member => trailing c (List.mem_reverse.mp member)
  cases core with
  | nil =>
      have blanks : Blanks (before ++ after) := List.forall_mem_append.mpr ⟨leading, trailing⟩
      have nothing : trimStart (before ++ after ++ []) = [] := trimStart_append blanks nofun
      rw [List.append_nil] at nothing
      rw [List.append_nil, trim, nothing]
      rfl
  | cons c rest =>
      have start : trimStart (before ++ (c :: rest ++ after)) = c :: rest ++ after :=
        trimStart_append leading fun d found => first d found
      have finish : trimStart (after.reverse ++ (c :: rest).reverse) = (c :: rest).reverse :=
        trimStart_append behind fun d found => last d (List.head?_reverse ▸ found)
      rw [trim, List.append_assoc, start, List.reverse_append, finish, List.reverse_reverse]

theorem trim_eq_nil_iff : trim cs = [] ↔ Blanks cs := by
  constructor
  · intro empty
    obtain ⟨before, after, leading, trailing, split⟩ := (isCore_iff.mpr empty.symm).surrounded
    rw [split, List.append_nil]
    exact List.forall_mem_append.mpr ⟨leading, trailing⟩
  · intro blanks
    have nothing : IsCore [] cs := ⟨⟨cs, [], blanks, nofun, by simp⟩, nofun, nofun⟩
    exact (isCore_iff.mp nothing).symm

theorem trim_trim (cs : List Char) : trim (trim cs) = trim cs := by
  have core := isCore_trim cs
  have own : IsCore (trim cs) (trim cs) :=
    ⟨⟨[], [], nofun, nofun, by simp⟩, core.first, core.last⟩
  exact (isCore_iff.mp own).symm

/-- Nothing is left of a text by trimming exactly if all of it is blank. -/
theorem trimmed_eq_empty_iff : trimmed s = "" ↔ AllBlank s := by
  rw [trimmed, ← String.toList_inj, String.toList_ofList]
  exact trim_eq_nil_iff

theorem trimmed_trimmed (s : String) : trimmed (trimmed s) = trimmed s := by
  simp only [trimmed, String.toList_ofList, trim_trim]

theorem allBlank_trimmed_iff : AllBlank (trimmed s) ↔ AllBlank s := by
  rw [← trimmed_eq_empty_iff, ← trimmed_eq_empty_iff, trimmed_trimmed]

end LeaseElection.Text
