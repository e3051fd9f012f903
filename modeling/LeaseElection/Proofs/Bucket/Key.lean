import LeaseElection.Bucket.Client
import Mathlib.Data.List.Basic

namespace LeaseElection

variable {c d : Char} {cs ds before after : List Char}

theorem isKeyChar_iff : IsKeyChar c ↔ ('A' ≤ c ∧ c ≤ 'Z') ∨ ('a' ≤ c ∧ c ≤ 'z') ∨
    ('0' ≤ c ∧ c ≤ '9') ∨ c = '-' ∨ c = '_' ∨ c = '.' := by
  have upper : c.isUpper = true ↔ 'A' ≤ c ∧ c ≤ 'Z' := decide_eq_true_iff
  have lower : c.isLower = true ↔ 'a' ≤ c ∧ c ≤ 'z' :=
    Bool.and_eq_true_iff.trans (and_congr decide_eq_true_iff decide_eq_true_iff)
  have digit : c.isDigit = true ↔ '0' ≤ c ∧ c ≤ '9' :=
    Bool.and_eq_true_iff.trans (and_congr decide_eq_true_iff decide_eq_true_iff)
  have alphanum : c.isAlphanum = (c.isUpper || c.isLower || c.isDigit) := rfl
  rw [IsKeyChar, alphanum, Bool.or_eq_true, Bool.or_eq_true, upper, lower, digit, or_assoc,
    or_assoc]

/-- The character that stands in a key for this one. -/
def keyChar (c : Char) : Char := if IsKeyChar c then c else '_'

theorem keyChar_of_isKeyChar (allowed : IsKeyChar c) : keyChar c = c := if_pos allowed

theorem isKeyChar_keyChar (c : Char) : IsKeyChar (keyChar c) := by
  unfold keyChar
  split
  next allowed => exact allowed
  next => decide

/-- Characters that are one in a key were one before, or have both become an underscore. -/
theorem keyChar_eq_iff : keyChar c = keyChar d ↔ c = d ∨ keyChar c = '_' ∧ keyChar d = '_' := by
  constructor
  · intro same
    by_cases allowed : IsKeyChar c
    · by_cases otherAllowed : IsKeyChar d
      · rw [keyChar_of_isKeyChar allowed, keyChar_of_isKeyChar otherAllowed] at same
        exact .inl same
      · have replaced : keyChar d = '_' := if_neg otherAllowed
        exact .inr ⟨same.trans replaced, replaced⟩
    · have replaced : keyChar c = '_' := if_neg allowed
      exact .inr ⟨replaced, same.symm.trans replaced⟩
  · rintro (rfl | ⟨replaced, otherReplaced⟩)
    · rfl
    · rw [replaced, otherReplaced]

theorem keyChar_eq_dot_iff : keyChar c = '.' ↔ c = '.' := by
  have kept : keyChar '.' = '.' := by decide
  constructor
  · intro dot
    obtain same | ⟨-, replaced⟩ := keyChar_eq_iff.mp (dot.trans kept.symm)
    · exact same
    · cases kept.symm.trans replaced
  · rintro rfl
    exact kept

theorem keyPart_eq_map (cs : List Char) : keyPart cs = cs.map keyChar := rfl

theorem isKeyChar_of_mem_keyPart (member : c ∈ keyPart cs) : IsKeyChar c := by
  obtain ⟨original, -, rfl⟩ := List.mem_map.mp member
  exact isKeyChar_keyChar original

theorem slash_notMem_keyPart (cs : List Char) : '/' ∉ keyPart cs := fun member =>
  absurd (isKeyChar_of_mem_keyPart member) (by decide)

theorem keyPart_eq_self_iff : keyPart cs = cs ↔ ∀ c ∈ cs, IsKeyChar c := by
  constructor
  · intro kept c member
    rw [← kept] at member
    exact isKeyChar_of_mem_keyPart member
  · intro clean
    rw [keyPart_eq_map, List.map_congr_left fun c member => keyChar_of_isKeyChar (clean c member),
      List.map_id']

/-- Replacing once is enough. -/
theorem keyPart_keyPart (cs : List Char) : keyPart (keyPart cs) = keyPart cs :=
  keyPart_eq_self_iff.mpr fun _ member => isKeyChar_of_mem_keyPart member

/-- As many characters, and at each place the same one or two that become an underscore. -/
def Alike (cs ds : List Char) : Prop :=
  cs.length = ds.length ∧ ∀ (i : Nat) (here : i < cs.length) (there : i < ds.length),
    cs[i] = ds[i] ∨ keyChar cs[i] = '_' ∧ keyChar ds[i] = '_'

theorem keyPart_eq_iff : keyPart cs = keyPart ds ↔ Alike cs ds := by
  simp only [keyPart_eq_map, List.ext_getElem_iff, List.length_map, List.getElem_map,
    keyChar_eq_iff, Alike]

theorem head?_keyPart_eq_dot_iff (cs : List Char) :
    (keyPart cs).head? = some '.' ↔ cs.head? = some '.' := by
  simp [keyPart_eq_map, List.head?_map, keyChar_eq_dot_iff]

theorem getLast?_keyPart_eq_dot_iff (cs : List Char) :
    (keyPart cs).getLast? = some '.' ↔ cs.getLast? = some '.' := by
  simp [keyPart_eq_map, List.getLast?_map, keyChar_eq_dot_iff]

namespace RecordKey

variable {key other : RecordKey}

theorem toList_bucketKey (key : RecordKey) : key.bucketKey.toList =
    keyPart key.nameSpace.toList ++ '/' :: keyPart key.name.toList := String.toList_ofList

/-- The slash tells the parts of a key apart. -/
theorem toList_bucketKey_eq_iff : key.bucketKey.toList = before ++ '/' :: after ↔
    before = keyPart key.nameSpace.toList ∧ after = keyPart key.name.toList := by
  rw [toList_bucketKey,
    List.append_cons_inj_of_notMem (slash_notMem_keyPart _) (slash_notMem_keyPart _)]
  simp [eq_comm]

/-- Two records that the bucket cannot tell apart. -/
def Meets (key other : RecordKey) : Prop :=
  keyPart key.nameSpace.toList = keyPart other.nameSpace.toList ∧
    keyPart key.name.toList = keyPart other.name.toList

instance (key other : RecordKey) : Decidable (key.Meets other) :=
  inferInstanceAs (Decidable (_ ∧ _))

/-- Two keys are one only part by part. -/
theorem bucketKey_eq_iff : key.bucketKey = other.bucketKey ↔ key.Meets other := by
  rw [← String.toList_inj, other.toList_bucketKey, toList_bucketKey_eq_iff]
  simp [Meets, eq_comm]

/-- Every character is one that the keys of a bucket may hold. -/
def Clean (key : RecordKey) : Prop :=
  (∀ c ∈ key.nameSpace.toList, IsKeyChar c) ∧ ∀ c ∈ key.name.toList, IsKeyChar c

theorem Clean.eq_of_meets (clean : key.Clean) (otherClean : other.Clean)
    (meets : key.Meets other) : key = other := by
  obtain ⟨nameSpaces, names⟩ := meets
  rw [keyPart_eq_self_iff.mpr clean.1, keyPart_eq_self_iff.mpr otherClean.1] at nameSpaces
  rw [keyPart_eq_self_iff.mpr clean.2, keyPart_eq_self_iff.mpr otherClean.2] at names
  obtain ⟨nameSpace, name⟩ := key
  obtain ⟨otherSpace, otherName⟩ := other
  rw [RecordKey.mk.injEq]
  exact ⟨String.toList_inj.mp nameSpaces, String.toList_inj.mp names⟩

theorem bucketKey_eq_text_iff : key.bucketKey = key.text ↔ key.Clean := by
  have plain : key.text.toList = key.nameSpace.toList ++ '/' :: key.name.toList := by
    simp [text, String.toList_append]
  rw [← String.toList_inj, toList_bucketKey, plain, Clean, ← keyPart_eq_self_iff,
    ← keyPart_eq_self_iff]
  constructor
  · intro same
    -- a slash among the characters of the parts does not matter, as replacing keeps their number
    obtain ⟨nameSpaces, rest⟩ := List.append_inj same (List.length_map _)
    exact ⟨nameSpaces, (List.cons_inj_right _).mp rest⟩
  · rintro ⟨nameSpaces, names⟩
    rw [nameSpaces, names]

theorem count_slash_bucketKey (key : RecordKey) : key.bucketKey.toList.count '/' = 1 := by
  rw [toList_bucketKey, List.count_append, List.count_cons_self,
    List.count_eq_zero_of_not_mem (slash_notMem_keyPart _),
    List.count_eq_zero_of_not_mem (slash_notMem_keyPart _)]

theorem isKeyChar_of_mem_bucketKey (member : c ∈ key.bucketKey.toList) :
    c = '/' ∨ IsKeyChar c := by
  rw [toList_bucketKey, List.mem_append, List.mem_cons] at member
  obtain nameSpace | slash | name := member
  · exact .inr (isKeyChar_of_mem_keyPart nameSpace)
  · exact .inl slash
  · exact .inr (isKeyChar_of_mem_keyPart name)

/-- Neither a dot before the slash nor one after it comes from anything but a dot. -/
theorem bucketKeyValid_iff : BucketKeyValid key.bucketKey ↔
    key.nameSpace.toList.head? ≠ some '.' ∧ key.name.toList.getLast? ≠ some '.' := by
  have first : key.bucketKey.toList.head? = some '.' ↔ key.nameSpace.toList.head? = some '.' := by
    rw [toList_bucketKey, ← head?_keyPart_eq_dot_iff key.nameSpace.toList]
    cases keyPart key.nameSpace.toList <;> simp
  have last : key.bucketKey.toList.getLast? = some '.' ↔ key.name.toList.getLast? = some '.' := by
    rw [toList_bucketKey, ← getLast?_keyPart_eq_dot_iff key.name.toList,
      List.getLast?_append_cons]
    cases keyPart key.name.toList <;> simp
  have present : key.bucketKey ≠ "" := by
    intro empty
    have count := key.count_slash_bucketKey
    rw [empty] at count
    cases count
  rw [BucketKeyValid, ne_eq, ne_eq, ne_eq, first, last]
  exact and_iff_right present

/-- A bucket's key is made of characters that it takes and of one slash, with what became of the
namespace before it and what became of the name behind it. Keys are one exactly where the
namespaces and the names have nothing but underscores to tell them apart, replacing changes nothing
where there is nothing to replace, and the bucket takes the key unless the namespace begins with a
dot or the name ends with one. -/
theorem spelling_kept (key : RecordKey) :
    (∀ c ∈ key.bucketKey.toList, c = '/' ∨ ('A' ≤ c ∧ c ≤ 'Z') ∨ ('a' ≤ c ∧ c ≤ 'z') ∨
      ('0' ≤ c ∧ c ≤ '9') ∨ c = '-' ∨ c = '_' ∨ c = '.') ∧
    key.bucketKey.toList.count '/' = 1 ∧
    (∀ before after, key.bucketKey.toList = before ++ '/' :: after ↔
      before = keyPart key.nameSpace.toList ∧ after = keyPart key.name.toList) ∧
    (∀ other : RecordKey, key.bucketKey = other.bucketKey ↔
      Alike key.nameSpace.toList other.nameSpace.toList ∧
        Alike key.name.toList other.name.toList) ∧
    (key.bucketKey = key.nameSpace ++ "/" ++ key.name ↔ key.Clean) ∧
    (∀ cs, keyPart (keyPart cs) = keyPart cs) ∧
    (BucketKeyValid key.bucketKey ↔
      key.nameSpace.toList.head? ≠ some '.' ∧ key.name.toList.getLast? ≠ some '.') := by
  refine ⟨?_, key.count_slash_bucketKey, fun before after => toList_bucketKey_eq_iff, ?_,
    bucketKey_eq_text_iff, keyPart_keyPart, bucketKeyValid_iff⟩
  · intro c member
    rw [← isKeyChar_iff]
    exact isKeyChar_of_mem_bucketKey member
  · intro other
    rw [bucketKey_eq_iff, Meets, keyPart_eq_iff, keyPart_eq_iff]

example : (⟨"team a", "jobs/cron"⟩ : RecordKey).bucketKey = "team_a/jobs_cron" := by decide

end RecordKey

end LeaseElection
