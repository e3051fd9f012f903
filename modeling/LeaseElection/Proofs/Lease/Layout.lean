import LeaseElection.Lease.Codec
import LeaseElection.Proofs.Json.Printed
import LeaseElection.Proofs.Text.Glyph
import LeaseElection.Proofs.Time.Rfc3339

namespace LeaseElection.LeaseRecord

open LeaseElection.Json
open LeaseElection.Text (Glyph)

variable {rest : List Glyph} {value gap : List Char} {name : String}

def fieldNames : List String :=
  ["holder_identity", "lease_duration_seconds", "acquire_time", "renew_time", "leader_transitions"]

def neededNames : List String := ["lease_duration_seconds", "acquire_time", "renew_time"]

/-- The value is a string that says what time it is, in any of the forms that times may have. -/
def TellsTime (value : List Char) (t : Instant) : Prop :=
  ∃ s, Spells value s ∧ Rfc3339.read s.toList = .ok t

/-- What a member of this name says is so of the record; members of other names may say anything. -/
def Tells (r : LeaseRecord) (name : String) (value : List Char) : Prop :=
  match name with
  | "holder_identity" => Spells value r.holder
  | "lease_duration_seconds" => value = Decimal.digits r.leaseSeconds.toNat
  | "acquire_time" => TellsTime value r.acquireTime
  | "renew_time" => TellsTime value r.renewTime
  | "leader_transitions" => value = Decimal.digits r.transitions.toNat
  | _ => True

/-- The members of a text are the record's fields once each, the ones with a default perhaps left out
where the record has it, and any members with other names. -/
structure Describes (d : Document) (r : LeaseRecord) : Prop where
  tells : ∀ m ∈ d.members, ∃ name, m.name? = some name ∧ r.Tells name m.value
  once : ∀ name ∈ fieldNames, d.names.count (some name) ≤ 1
  needed : ∀ name ∈ neededNames, some name ∈ d.names
  holder : some "holder_identity" ∈ d.names ∨ r.holder = ""
  transitions : some "leader_transitions" ∈ d.names ∨ r.transitions = 0

theorem tellsTime_print (t : Instant) : TellsTime (Value.string (Rfc3339.text t)).print t :=
  ⟨Rfc3339.text t, Reader.spells_printString _, by
    rw [Rfc3339.text, String.toList_ofList, Rfc3339.read_print]⟩

/-- A printed object describes a record by the names and values it was printed from. -/
theorem describes_of_parts {d : Document} {ms : List (String × Value)} {r : LeaseRecord}
    (parts : d.members.map (fun m => (m.name?, m.value)) = ms.map fun m => (some m.1, m.2.print))
    (tells : ∀ m ∈ ms, r.Tells m.1 m.2.print)
    (once : ∀ name ∈ fieldNames, (ms.map fun m => some m.1).count (some name) ≤ 1)
    (needed : ∀ name ∈ neededNames, some name ∈ ms.map fun m => some m.1)
    (holder : some "holder_identity" ∈ ms.map (fun m => some m.1) ∨ r.holder = "")
    (transitions : some "leader_transitions" ∈ ms.map (fun m => some m.1) ∨ r.transitions = 0) :
    Describes d r where
  tells := by
    intro m among
    obtain ⟨source, inside, name, print⟩ := exists_source parts among
    exact ⟨source.1, name, print ▸ tells source inside⟩
  once := names_of_parts parts ▸ once
  needed := names_of_parts parts ▸ needed
  holder := names_of_parts parts ▸ holder
  transitions := names_of_parts parts ▸ transitions

theorem reads_word (n : UInt64) (ends : Reader.EndsNumber rest) :
    Reader.Reads wordReader (Value.natural n.toNat).print rest n := by
  have word := n.toNat_lt
  have number := Reader.reads_natural "u64" word word ends
  unfold wordReader
  refine .last number ?_
  rw [UInt64.ofNat_toNat]
  exact .pure

theorem reads_time_of_tells {t : Instant} (tells : TellsTime value t) :
    Reader.Reads timeReader value rest t := by
  obtain ⟨s, spells, read⟩ := tells
  unfold timeReader
  refine Reader.reads_stringMeaning_of_spells _ spells ?_
  rw [read]
  rfl

theorem consumes_wordReader : Reader.Consumes wordReader :=
  (Reader.consumes_natural 64 "u64").map

theorem consumes_timeReader : Reader.Consumes timeReader := Reader.consumes_stringMeaning _ _

/-- What a draft is once a member of this name was read, if it tells the record's field. -/
def mark (r : LeaseRecord) (name : String) (d : Draft) : Draft where
  holder := if name = "holder_identity" then some r.holder else d.holder
  leaseSeconds := if name = "lease_duration_seconds" then some r.leaseSeconds else d.leaseSeconds
  acquireTime := if name = "acquire_time" then some r.acquireTime else d.acquireTime
  renewTime := if name = "renew_time" then some r.renewTime else d.renewTime
  transitions := if name = "leader_transitions" then some r.transitions else d.transitions

theorem reads_fill {r : LeaseRecord} {field : Reader.Field Draft} (listed : field ∈ shape.fields)
    (tells : r.Tells field.name value) (blank : IsBlank gap) (d : Draft)
    (ends : Reader.EndsNumber rest) :
    Reader.Reads (field.fill d) (gap ++ value) rest (mark r field.name d) := by
  simp only [shape, List.mem_cons, List.not_mem_nil, or_false] at listed
  rcases listed with rfl | rfl | rfl | rfl | rfl
  · have read : Reader.Reads Reader.string value rest r.holder :=
      Reader.reads_stringAs_of_spells "a string" tells
    exact .last ((Reader.consumes_stringAs "a string").blanks.reads blank read) .pure
  · have read := reads_word r.leaseSeconds ends
    rw [show value = Decimal.digits r.leaseSeconds.toNat from tells]
    exact .last (consumes_wordReader.blanks.reads blank read) .pure
  · have read : Reader.Reads timeReader value rest r.acquireTime :=
      reads_time_of_tells tells
    exact .last (consumes_timeReader.blanks.reads blank read) .pure
  · have read : Reader.Reads timeReader value rest r.renewTime :=
      reads_time_of_tells tells
    exact .last (consumes_timeReader.blanks.reads blank read) .pure
  · have read := reads_word r.transitions ends
    rw [show value = Decimal.digits r.transitions.toNat from tells]
    exact .last (consumes_wordReader.blanks.reads blank read) .pure

theorem shape_orderly : Reader.Orderly shape where
  found := by
    intro f listed
    simp only [shape, List.mem_cons, List.not_mem_nil, or_false] at listed
    rcases listed with rfl | rfl | rfl | rfl | rfl <;> rfl
  fresh := by
    intro f listed
    simp only [shape, List.mem_cons, List.not_mem_nil, or_false] at listed
    rcases listed with rfl | rfl | rfl | rfl | rfl <;> rfl
  fills := by
    intro f listed d gap value rest blank wellFormed ends
    simp only [shape, List.mem_cons, List.not_mem_nil, or_false] at listed
    rcases listed with rfl | rfl | rfl | rfl | rfl
    · exact (Reader.consumes_stringAs "a string").fills rfl blank wellFormed ends (fun _ => rfl)
        (by simp [shape])
    · exact consumes_wordReader.fills rfl blank wellFormed ends (fun _ => rfl) (by simp [shape])
    · exact consumes_timeReader.fills rfl blank wellFormed ends (fun _ => rfl) (by simp [shape])
    · exact consumes_timeReader.fills rfl blank wellFormed ends (fun _ => rfl) (by simp [shape])
    · exact consumes_wordReader.fills rfl blank wellFormed ends (fun _ => rfl) (by simp [shape])

theorem getD_of_told {β : Type} {p : Prop} [Decidable p] {b default : β}
    (told : p ∨ b = default) : (if p then some b else none).getD default = b := by
  split
  · rfl
  next silent => exact (told.resolve_left silent).symm

/-- When every field that needs a member had one, a draft is complete and holds the record. -/
theorem record_of_marks {r : LeaseRecord} {names : List String}
    (needed : ∀ name ∈ neededNames, name ∈ names)
    (holder : "holder_identity" ∈ names ∨ r.holder = "")
    (transitions : "leader_transitions" ∈ names ∨ r.transitions = 0) {final : Draft}
    (marked : final = names.foldl (fun d name => mark r name d) shape.empty) :
    shape.missing? final = none ∧ final.record = r := by
  have readHolder : final.holder = if "holder_identity" ∈ names then some r.holder else none :=
    marked ▸ Reader.projection_foldl (fun _ _ => rfl) names shape.empty
  have readTransitions :
      final.transitions = if "leader_transitions" ∈ names then some r.transitions else none :=
    marked ▸ Reader.projection_foldl (fun _ _ => rfl) names shape.empty
  have readSeconds : final.leaseSeconds = some r.leaseSeconds := by
    have read : final.leaseSeconds = if "lease_duration_seconds" ∈ names then _ else _ :=
      marked ▸ Reader.projection_foldl (fun _ _ => rfl) names shape.empty
    rw [read, if_pos (needed _ (by decide))]
  have readAcquired : final.acquireTime = some r.acquireTime := by
    have read : final.acquireTime = if "acquire_time" ∈ names then _ else _ :=
      marked ▸ Reader.projection_foldl (fun _ _ => rfl) names shape.empty
    rw [read, if_pos (needed _ (by decide))]
  have readRenewed : final.renewTime = some r.renewTime := by
    have read : final.renewTime = if "renew_time" ∈ names then _ else _ :=
      marked ▸ Reader.projection_foldl (fun _ _ => rfl) names shape.empty
    rw [read, if_pos (needed _ (by decide))]
  constructor
  · simp [Reader.Shape.missing?, shape, readSeconds, readAcquired, readRenewed]
  · have lastHolder : final.holder.getD "" = r.holder := by
      rw [readHolder]
      exact getD_of_told holder
    have lastTransitions : final.transitions.getD 0 = r.transitions := by
      rw [readTransitions]
      exact getD_of_told transitions
    rw [Draft.record, lastHolder, readSeconds, readAcquired, readRenewed, lastTransitions]
    rfl

theorem mark_other {r : LeaseRecord} (unknown : shape.field? name = none) (d : Draft) :
    mark r name d = d := by
  have others := List.find?_eq_none.mp unknown
  simp only [shape, List.forall_mem_cons, decide_eq_true_eq] at others
  obtain ⟨holder, leaseSeconds, acquireTime, renewTime, transitions, -⟩ := others
  unfold mark
  rw [if_neg (Ne.symm holder), if_neg (Ne.symm leaseSeconds), if_neg (Ne.symm acquireTime),
    if_neg (Ne.symm renewTime), if_neg (Ne.symm transitions)]

theorem fieldNames_eq : shape.fields.map Reader.Field.name = fieldNames := rfl

theorem Describes.gathers {d : Document} {r : LeaseRecord} (describes : Describes d r) :
    ∃ final, Reader.Gathers shape d.members shape.empty final ∧ shape.missing? final = none ∧
      final.record = r := by
  obtain ⟨names, named⟩ : ∃ names : List String, d.names = names.map some :=
    exists_names fun m listed => (describes.tells m listed).imp fun _ tells => tells.1
  have among (name : String) : some name ∈ d.names ↔ name ∈ names := by
    rw [named]
    simp
  refine ⟨names.foldl (fun draft name => mark r name draft) shape.empty, ?_,
    record_of_marks ?_ ?_ ?_ rfl⟩
  · refine Reader.gathers_marks rfl shape_orderly (mark r) d.values named ?_ ?_ ?_
    · intro m listed name field draft own known rest ends
      obtain ⟨_, named, tells⟩ := describes.tells m listed
      obtain rfl : name = _ := Option.some.inj (own.symm.trans named)
      obtain ⟨field_listed, rfl⟩ := Reader.field?_spec known
      exact reads_fill field_listed tells m.before.property draft ends
    · exact fun name draft unknown => mark_other unknown draft
    · intro f listed
      have known : f.name ∈ fieldNames := fieldNames_eq ▸ List.mem_map_of_mem listed
      rw [shape_orderly.fresh f listed, ← named, Bool.toNat_false, Nat.zero_add]
      exact describes.once f.name known
  · exact fun name listed => (among name).mp (describes.needed name listed)
  · exact describes.holder.imp_left (among _).mp
  · exact describes.transitions.imp_left (among _).mp

theorem reads_document {d : Document} {r : LeaseRecord} (describes : Describes d r) :
    decodeGlyphs (d.text.map .char) = .ok r := by
  obtain ⟨final, gathers, complete, finished⟩ := describes.gathers
  rw [decodeGlyphs, reader, Reader.decode_document gathers complete (by rw [finished])]
  rfl

theorem refuses_document {d : Document}
    (faulty : (∃ name ∈ neededNames, some name ∉ d.names) ∨
      ∃ name ∈ fieldNames, 2 ≤ d.names.count (some name)) :
    ∃ reason, decodeGlyphs (d.text.map .char) = .error (.codec reason) := by
  have field : ∃ f ∈ shape.fields, 2 ≤ d.names.count (some f.name) ∨
      (f.optional = false ∧ some f.name ∉ d.names) := by
    rcases faulty with ⟨name, listed, never⟩ | ⟨name, listed, twice⟩
    · obtain ⟨f, among, rfl, needed⟩ : ∃ f ∈ shape.fields, f.name = name ∧ f.optional = false := by
        simp only [neededNames, List.mem_cons, List.not_mem_nil, or_false] at listed
        rcases listed with rfl | rfl | rfl <;> simp [shape]
      exact ⟨f, among, .inr ⟨needed, never⟩⟩
    · obtain ⟨f, among, rfl⟩ := List.mem_map.mp (fieldNames_eq ▸ listed)
      exact ⟨f, among, .inl twice⟩
  obtain ⟨f, among, faulty⟩ := field
  obtain ⟨fault, failed⟩ := Reader.decode_faulty shape_orderly among faulty fun d => .ok d.record
  rw [decodeGlyphs, reader, failed]
  exact ⟨_, rfl⟩

theorem decode_text (d : Document) :
    decode (String.ofList d.text) = decodeGlyphs (d.text.map .char) := by
  rw [decode, Text.glyphs, String.toList_ofList]

theorem decodeBytes_text (d : Document) :
    decodeBytes (String.ofList d.text).toUTF8.data.toList = decodeGlyphs (d.text.map .char) := by
  rw [decodeBytes, Text.glyphsOfBytes_utf8, Text.glyphs, String.toList_ofList]

/-- A record is read from every text that describes it, however it is laid out, and nothing is read
from a text that leaves out a needed field or has a field twice. Other members may hold any values,
nested to any depth. -/
theorem layout_kept (d : Document) :
    (∀ r, Describes d r → decode (String.ofList d.text) = .ok r ∧
      decodeBytes (String.ofList d.text).toUTF8.data.toList = .ok r) ∧
    ((∃ name ∈ neededNames, some name ∉ d.names) ∨
        (∃ name ∈ fieldNames, 2 ≤ d.names.count (some name)) →
      ∃ reason, decode (String.ofList d.text) = .error (.codec reason) ∧
        decodeBytes (String.ofList d.text).toUTF8.data.toList = .error (.codec reason)) := by
  rw [decode_text, decodeBytes_text]
  constructor
  · intro r describes
    exact ⟨reads_document describes, reads_document describes⟩
  · intro faulty
    obtain ⟨reason, failed⟩ := refuses_document faulty
    exact ⟨reason, failed, failed⟩

/-- Times stand before the length of the lease, and a member of another name holds an object that has
one of the record's names; and the length of the lease is given twice. -/
theorem layout_kept_shuffled :
    decode (Value.object [("renew_time", .string (Rfc3339.text default)),
        ("note", .array [.natural 1, .object [("acquire_time", .null)]]),
        ("acquire_time", .string (Rfc3339.text default)),
        ("lease_duration_seconds", .natural 15)]).text = .ok ⟨"", 15, default, default, 0⟩ ∧
      ∃ reason, decode (Value.object [("lease_duration_seconds", .natural 15),
        ("lease_duration_seconds", .natural 15)]).text = .error (.codec reason) := by
  constructor
  · obtain ⟨d, text, parts⟩ := exists_document [("renew_time", .string (Rfc3339.text default)),
      ("note", .array [.natural 1, .object [("acquire_time", .null)]]),
      ("acquire_time", .string (Rfc3339.text default)), ("lease_duration_seconds", .natural 15)]
    have describes : Describes d ⟨"", 15, default, default, 0⟩ := by
      refine describes_of_parts parts ?_ (by decide) (by decide) (.inr rfl) (.inr rfl)
      simp only [List.forall_mem_cons]
      exact ⟨tellsTime_print _, trivial, tellsTime_print _, rfl,
        fun _ among => (List.not_mem_nil among).elim⟩
    have read := ((layout_kept d).1 _ describes).1
    rw [text] at read
    exact read
  · obtain ⟨d, text, parts⟩ := exists_document [("lease_duration_seconds", .natural 15),
      ("lease_duration_seconds", .natural 15)]
    have twice : 2 ≤ d.names.count (some "lease_duration_seconds") := by
      rw [names_of_parts parts]
      decide
    obtain ⟨reason, failed, -⟩ := (layout_kept d).2 (.inr ⟨_, by decide, twice⟩)
    rw [text] at failed
    exact ⟨reason, failed⟩

theorem decodeGlyphs_encode (r : LeaseRecord) : decodeGlyphs (Text.glyphs r.encode) = .ok r := by
  obtain ⟨d, text, parts⟩ := exists_document [("holder_identity", .string r.holder),
    ("lease_duration_seconds", .natural r.leaseSeconds.toNat),
    ("acquire_time", .string (Rfc3339.text r.acquireTime)),
    ("renew_time", .string (Rfc3339.text r.renewTime)),
    ("leader_transitions", .natural r.transitions.toNat)]
  have describes : Describes d r := by
    refine describes_of_parts parts ?_ (by simp [fieldNames]) (by simp [neededNames])
      (.inl (by simp)) (.inl (by simp))
    simp only [List.forall_mem_cons]
    exact ⟨Reader.spells_printString r.holder, rfl, tellsTime_print r.acquireTime,
      tellsTime_print r.renewTime, rfl, fun _ among => (List.not_mem_nil among).elim⟩
  have read := reads_document describes
  rw [text] at read
  rw [encode, Value.text, Text.glyphs, String.toList_ofList]
  exact read

/-- A record is read back from its text, and from the bytes that its text is stored as. -/
theorem decode_encode_kept (r : LeaseRecord) :
    decode r.encode = .ok r ∧ decodeBytes r.encode.toUTF8.data.toList = .ok r := by
  refine ⟨r.decodeGlyphs_encode, ?_⟩
  rw [decodeBytes, Text.glyphsOfBytes_utf8]
  exact r.decodeGlyphs_encode

end LeaseElection.LeaseRecord
