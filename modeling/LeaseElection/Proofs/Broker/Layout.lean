import LeaseElection.Broker.Config
import LeaseElection.Proofs.Json.Composite
import Mathlib.Data.List.Count
import Mathlib.Data.List.Nodup

namespace LeaseElection

open LeaseElection.Json
open LeaseElection.Text (Glyph)

variable {rest : List Glyph}

theorem reads_naturalMember {m : Member} {n bits : Nat} (expected : String)
    (printed : m.value = (Value.natural n).print) (word : n < UInt64.size)
    (fits : n < Nat.pow 2 bits) (ends : Reader.EndsNumber rest) :
    Reader.Reads (Reader.natural bits expected) (m.before.val ++ m.value) rest n := by
  rw [printed]
  exact (Reader.consumes_natural bits expected).blanks.reads m.before.property
    (Reader.reads_natural expected word fits ends)

theorem Duration.reads_json {d : Duration} (bounded : d ≤ Duration.max) :
    Reader.Reads Duration.reader d.json.print rest d := by
  obtain ⟨members, texts, parts⟩ :=
    exists_members [("secs", .natural d.seconds), ("nanos", .natural d.subsecond)]
  obtain ⟨secs, others, rfl, first, later⟩ := List.map_eq_cons_iff.mp parts
  obtain ⟨nanos, others, rfl, second, nothing⟩ := List.map_eq_cons_iff.mp later
  obtain rfl := List.map_eq_nil_iff.mp nothing
  -- What is printed has two members, so the draft is filled twice.
  obtain ⟨secsName, secsValue⟩ := Prod.mk.inj first
  obtain ⟨nanosName, nanosValue⟩ := Prod.mk.inj second
  have word : d.seconds < UInt64.size := by
    have limit : d.nanoseconds ≤ UInt64.size * nanosPerSecond - 1 := bounded
    have positive : 0 < UInt64.size * nanosPerSecond := by decide
    exact Nat.div_lt_of_lt_mul (by rw [Nat.mul_comm]; omega)
  have part : d.subsecond < nanosPerSecond := Nat.mod_lt _ (by decide)
  have small : d.subsecond < Nat.pow 2 32 := Nat.lt_trans part (by decide)
  have gathers : Reader.Gathers shape [secs, nanos] shape.empty
      ⟨some d.seconds, some d.subsecond⟩ :=
    .known secsName rfl rfl
      (fun _ ends => .last (reads_naturalMember "u64" secsValue word word ends) .pure)
      (.known nanosName rfl rfl
        (fun _ ends => .last (reads_naturalMember "u32" nanosValue
          (Nat.lt_trans small (by decide)) small ends) .pure) .nil)
  have whole : ofParts d.seconds d.subsecond = d :=
    congrArg Duration.mk (Nat.div_add_mod' d.nanoseconds nanosPerSecond)
  have text : objectText [secs, nanos] noBlanks = d.json.print := objectText_of_texts texts
  rw [← text]
  refine Reader.reads_object gathers rfl ?_
  simp only [Option.getD_some, whole, if_pos bounded]

theorem SecurityMode.reads_json (mode : SecurityMode) :
    Reader.Reads SecurityMode.reader mode.json.print rest mode := by
  refine Reader.reads_choice (Reader.spells_printString mode.text) ?_
  cases mode <;> rfl

namespace BrokerConfig

variable {c : BrokerConfig} {d : Document} {left names : List String} {name : String}

theorem reads_text (expected : String) (o : Option String) :
    Reader.Reads (Reader.option (Reader.stringAs expected)) (orNull .string o).print rest o := by
  cases o with
  | none => exact Reader.reads_none
  | some s =>
      exact Reader.reads_some (by decide) (by decide)
        (Reader.reads_stringAs_of_spells expected (Reader.spells_printString s))

theorem reads_span {o : Option Duration} (bounded : ∀ span ∈ o, span ≤ Duration.max) :
    Reader.Reads (Reader.option Duration.reader) (orNull Duration.json o).print rest o := by
  cases o with
  | none => exact Reader.reads_none
  | some span =>
      exact Reader.reads_some (by decide) (by decide) (Duration.reads_json (bounded span rfl))

def fieldNames : List String :=
  ["servers", "bucket", "history", "security_mode", "username", "password", "token",
    "nkey_seed_path", "tls_cert_path", "tls_key_path", "tls_ca_path", "creds_file_path",
    "connect_timeout", "request_timeout", "connect_retry_max"]

/-- The numbers of a configuration fit in their machine types. -/
structure InRange (c : BrokerConfig) : Prop where
  history : -9223372036854775808 ≤ c.history ∧ c.history ≤ 9223372036854775807
  connectTimeout : ∀ span ∈ c.connectTimeout, span ≤ Duration.max
  requestTimeout : ∀ span ∈ c.requestTimeout, span ≤ Duration.max
  connectRetryMax : c.connectRetryMax < Nat.pow 2 32

/-- The configuration, but with another one's values in the named fields. -/
def replacing (c : BrokerConfig) (names : List String) (other : BrokerConfig) : BrokerConfig where
  servers := if "servers" ∈ names then other.servers else c.servers
  bucket := if "bucket" ∈ names then other.bucket else c.bucket
  history := if "history" ∈ names then other.history else c.history
  securityMode := if "security_mode" ∈ names then other.securityMode else c.securityMode
  username := if "username" ∈ names then other.username else c.username
  password := if "password" ∈ names then other.password else c.password
  token := if "token" ∈ names then other.token else c.token
  nkeySeedPath := if "nkey_seed_path" ∈ names then other.nkeySeedPath else c.nkeySeedPath
  tlsCertPath := if "tls_cert_path" ∈ names then other.tlsCertPath else c.tlsCertPath
  tlsKeyPath := if "tls_key_path" ∈ names then other.tlsKeyPath else c.tlsKeyPath
  tlsCaPath := if "tls_ca_path" ∈ names then other.tlsCaPath else c.tlsCaPath
  credsFilePath := if "creds_file_path" ∈ names then other.credsFilePath else c.credsFilePath
  connectTimeout := if "connect_timeout" ∈ names then other.connectTimeout else c.connectTimeout
  requestTimeout := if "request_timeout" ∈ names then other.requestTimeout else c.requestTimeout
  connectRetryMax :=
    if "connect_retry_max" ∈ names then other.connectRetryMax else c.connectRetryMax

/-- The members of a text are the configuration's fields as they are printed, once each but for
those that are left out, and any members of other names. -/
structure Holds (c : BrokerConfig) (d : Document) (left : List String) : Prop where
  tells : ∀ m ∈ d.members, ∃ name, m.name? = some name ∧
    ∀ value, (name, value) ∈ c.members → m.value = value.print
  once : ∀ name ∈ fieldNames, d.names.count (some name) = if name ∈ left then 0 else 1

theorem fieldNames_eq : fields.map Reader.Field.name = fieldNames := rfl

theorem replacing_cons (c other : BrokerConfig) (name : String) (names : List String) :
    c.replacing (name :: names) other = (c.replacing [name] other).replacing names other := by
  have either {α : Type} (key : String) (a b : α) : (if key ∈ name :: names then a else b) =
      if key ∈ names then a else if key ∈ [name] then a else b := by
    by_cases later : key ∈ names
    · rw [if_pos later, if_pos (List.mem_cons_of_mem _ later)]
    · simp [later]
  simp only [replacing, either]

theorem replacing_unknown (unknown : name ∉ fieldNames) (c other : BrokerConfig) :
    c.replacing [name] other = c := by
  have keeps {α : Type} {key : String} (known : key ∈ fieldNames) (a b : α) :
      (if key ∈ [name] then a else b) = b := by
    refine if_neg fun same => unknown ?_
    rwa [← List.mem_singleton.mp same]
  unfold replacing
  congr 1 <;> exact keeps (by decide) _ _

theorem replacing_complement (c other : BrokerConfig)
    (apart : ∀ name ∈ fieldNames, name ∈ names ↔ name ∉ left) :
    other.replacing names c = c.replacing left other := by
  have swaps {α : Type} {key : String} (known : key ∈ fieldNames) (a b : α) :
      (if key ∈ names then a else b) = if key ∈ left then b else a := by
    by_cases out : key ∈ left
    · rw [if_pos out, if_neg fun inside => (apart key known).mp inside out]
    · rw [if_neg out, if_pos ((apart key known).mpr out)]
  unfold replacing
  congr 1 <;> exact swaps (by decide) _ _

/-- What a draft is once a member of this name was read, if it holds the configuration's field. -/
def mark (c : BrokerConfig) (name : String) (draft : Draft) : Draft :=
  if name ∈ fieldNames then ⟨draft.config.replacing [name] c, name :: draft.read⟩ else draft

theorem mark_config (c : BrokerConfig) (name : String) (draft : Draft) :
    (c.mark name draft).config = draft.config.replacing [name] c := by
  unfold mark
  split
  · rfl
  next unknown => exact (replacing_unknown unknown draft.config c).symm

theorem marks_config (c : BrokerConfig) (names : List String) (draft : Draft) :
    (names.foldl (fun draft name => c.mark name draft) draft).config =
      draft.config.replacing names c := by
  induction names generalizing draft with
  | nil => rfl
  | cons name names ih => rw [List.foldl_cons, ih, mark_config, ← replacing_cons]

/-- Wherever the value stands, the field is filled with what the configuration has in it, and
nothing else is changed. -/
def Fills (c : BrokerConfig) (f : Reader.Field Draft) (v : Value) : Prop :=
  ∀ draft gap rest, IsBlank gap → Reader.EndsNumber rest →
    Reader.Reads (f.fill draft) (gap ++ v.print) rest (c.mark f.name draft)

theorem exists_fills {α : Type} {r : Reader α} {store : BrokerConfig → α → BrokerConfig} {a : α}
    {v : Value} (name : String) (known : name ∈ fieldNames) (listed : (name, v) ∈ c.members)
    (takes : Reader.TakesBlanks r)
    (reads : ∀ rest, Reader.EndsNumber rest → Reader.Reads r v.print rest a)
    (stores : ∀ b, store b a = b.replacing [name] c) :
    ∃ v, (name, v) ∈ c.members ∧ c.Fills (field name r store) v := by
  refine ⟨v, listed, fun draft gap rest blank ends => ?_⟩
  have named : (field name r store).name = name := rfl
  rw [named, mark, if_pos known, ← stores]
  exact .last (takes.reads blank (reads rest ends)) .pure

/-- Each field is filled with its own value among the ones that are printed. -/
theorem fields_fill (inRange : c.InRange) :
    ∀ f ∈ fields, ∃ v, (f.name, v) ∈ c.members ∧ c.Fills f v := by
  have string (s : String) (rest : List Glyph) (_ : Reader.EndsNumber rest) :
      Reader.Reads Reader.string (Value.string s).print rest s :=
    Reader.reads_stringAs_of_spells "a string" (Reader.spells_printString s)
  have strings (rest : List Glyph) (_ : Reader.EndsNumber rest) :
      Reader.Reads (Reader.list Reader.string) (Value.array (c.servers.map .string)).print rest
        c.servers :=
    Reader.reads_list fun s _ => string s
  have history (rest : List Glyph) (ends : Reader.EndsNumber rest) :=
    Reader.reads_integer "i64" inRange.history
      ⟨inRange.history.1, Int.lt_of_le_of_lt inRange.history.2 (by decide)⟩ ends
  have retries (rest : List Glyph) (ends : Reader.EndsNumber rest) :
      Reader.Reads (Reader.natural 32 "u32") (Value.natural c.connectRetryMax).print rest _ :=
    Reader.reads_natural "u32" (Nat.lt_trans inRange.connectRetryMax (by decide))
      inRange.connectRetryMax ends
  have optional {α : Type} (r : Reader α) := Reader.takesBlanks_option r
  simp only [fields, List.forall_mem_cons, List.not_mem_nil]
  refine ⟨?_, ?_, ?_, ?_, ?_, ?_, ?_, ?_, ?_, ?_, ?_, ?_, ?_, ?_, ?_, nofun⟩
  · exact exists_fills "servers" (by decide) (by simp [members]) (Reader.takesBlanks_list _) strings
      fun _ => rfl
  · exact exists_fills "bucket" (by decide) (by simp [members]) (Reader.takesBlanks_stringAs _)
      (string c.bucket) fun _ => rfl
  · exact exists_fills "history" (by decide) (by simp [members])
      (Reader.consumes_integer _).blanks history fun _ => rfl
  · exact exists_fills "security_mode" (by decide) (by simp [members]) (Reader.takesBlanks_choice _)
      (fun _ _ => c.securityMode.reads_json) fun _ => rfl
  · exact exists_fills "username" (by decide) (by simp [members]) (optional _)
      (fun _ _ => reads_text _ c.username) fun _ => rfl
  · exact exists_fills "password" (by decide) (by simp [members]) (optional _)
      (fun _ _ => reads_text _ c.password) fun _ => rfl
  · exact exists_fills "token" (by decide) (by simp [members]) (optional _)
      (fun _ _ => reads_text _ c.token) fun _ => rfl
  · exact exists_fills "nkey_seed_path" (by decide) (by simp [members]) (optional _)
      (fun _ _ => reads_text _ c.nkeySeedPath) fun _ => rfl
  · exact exists_fills "tls_cert_path" (by decide) (by simp [members]) (optional _)
      (fun _ _ => reads_text _ c.tlsCertPath) fun _ => rfl
  · exact exists_fills "tls_key_path" (by decide) (by simp [members]) (optional _)
      (fun _ _ => reads_text _ c.tlsKeyPath) fun _ => rfl
  · exact exists_fills "tls_ca_path" (by decide) (by simp [members]) (optional _)
      (fun _ _ => reads_text _ c.tlsCaPath) fun _ => rfl
  · exact exists_fills "creds_file_path" (by decide) (by simp [members]) (optional _)
      (fun _ _ => reads_text _ c.credsFilePath) fun _ => rfl
  · exact exists_fills "connect_timeout" (by decide) (by simp [members]) (optional _)
      (fun _ _ => reads_span inRange.connectTimeout) fun _ => rfl
  · exact exists_fills "request_timeout" (by decide) (by simp [members]) (optional _)
      (fun _ _ => reads_span inRange.requestTimeout) fun _ => rfl
  · exact exists_fills "connect_retry_max" (by decide) (by simp [members])
      (Reader.consumes_natural _ _).blanks retries fun _ => rfl

theorem present_eq : ∀ f ∈ fields, ∀ draft, f.present draft = draft.read.contains f.name := by
  simp only [fields, List.forall_mem_cons, List.not_mem_nil]
  exact ⟨fun _ => rfl, fun _ => rfl, fun _ => rfl, fun _ => rfl, fun _ => rfl, fun _ => rfl,
    fun _ => rfl, fun _ => rfl, fun _ => rfl, fun _ => rfl, fun _ => rfl, fun _ => rfl,
    fun _ => rfl, fun _ => rfl, fun _ => rfl, nofun⟩

theorem counts_mark (c : BrokerConfig) {f : Reader.Field Draft} (listed : f ∈ fields)
    {draft : Draft} (absent : f.present draft = false) :
    Reader.Counts shape [some f.name] draft (c.mark f.name draft) := by
  intro g among
  have known : f.name ∈ fieldNames := fieldNames_eq ▸ List.mem_map_of_mem listed
  rw [present_eq f listed] at absent
  rw [present_eq g among, present_eq g among, mark, if_pos known, List.contains_cons,
    List.count_singleton]
  by_cases own : g.name = f.name
  · rw [own, absent]
    simp
  · have other : (g.name == f.name) = false := by simpa using own
    simp [other, Ne.symm own]

theorem mark_unknown (c : BrokerConfig) (unknown : shape.field? name = none) (draft : Draft) :
    c.mark name draft = draft := by
  refine if_neg fun known => ?_
  obtain ⟨f, listed, rfl⟩ := List.mem_map.mp (fieldNames_eq ▸ known)
  simpa using List.find?_eq_none.mp unknown f listed

theorem nothing_missing (draft : Draft) : shape.missing? draft = none := by
  simp [Reader.Shape.missing?, shape, fields, field]

theorem Holds.named_iff (holds : c.Holds d left) (named : d.names = names.map some) :
    ∀ name ∈ fieldNames, name ∈ names ↔ name ∉ left := by
  intro name known
  have count : d.names.count (some name) = names.count name := by
    rw [named]
    exact List.count_map_of_injective names some (fun _ _ => Option.some.inj) name
  rw [← List.count_pos_iff, ← count, holds.once name known]
  split
  next out => exact iff_of_false (Nat.lt_irrefl 0) (not_not_intro out)
  next kept => exact iff_of_true Nat.one_pos kept

theorem Holds.gathers (holds : c.Holds d left) (inRange : c.InRange)
    (named : d.names = names.map some) : Reader.Gathers shape d.members shape.empty
      (names.foldl (fun draft name => c.mark name draft) shape.empty) := by
  refine Reader.gathers_counts rfl c.mark d.values named ?_ ?_ ?_ ?_
  · intro m listed name field draft own known rest ends
    obtain ⟨_, named, tells⟩ := holds.tells m listed
    obtain rfl : name = _ := Option.some.inj (own.symm.trans named)
    obtain ⟨among, rfl⟩ := Reader.field?_spec known
    obtain ⟨v, told, fills⟩ := fields_fill inRange field among
    rw [tells v told]
    exact fills draft _ rest m.before.property ends
  · intro m listed name field draft own known absent
    obtain ⟨among, rfl⟩ := Reader.field?_spec known
    exact counts_mark c among absent
  · exact fun name draft unknown => mark_unknown c unknown draft
  · intro f among
    have known : f.name ∈ fieldNames := fieldNames_eq ▸ List.mem_map_of_mem among
    have unread : shape.empty.read.contains f.name = false := rfl
    rw [present_eq f among, unread, ← named, holds.once f.name known]
    split <;> decide

theorem reads_document (inRange : c.InRange) (holds : c.Holds d left) :
    Reader.decode reader (d.text.map .char) = .ok (c.replacing left default) := by
  obtain ⟨names, named⟩ : ∃ names : List String, d.names = names.map some :=
    exists_names fun m listed => (holds.tells m listed).imp fun _ tells => tells.1
  refine Reader.decode_document (holds.gathers inRange named) (nothing_missing _) ?_
  rw [marks_config]
  exact congrArg Except.ok (replacing_complement c default (holds.named_iff named))

/-- A printed object holds a configuration if its members do. -/
theorem holds_of_parts {ms : List (String × Value)}
    (parts : d.members.map (fun m => (m.name?, m.value)) = ms.map fun m => (some m.1, m.2.print))
    (tells : ∀ m ∈ ms, ∀ value, (m.1, value) ∈ c.members → m.2 = value)
    (once : ∀ name ∈ fieldNames,
      (ms.map fun m => some m.1).count (some name) = if name ∈ left then 0 else 1) :
    c.Holds d left where
  tells := by
    intro m among
    obtain ⟨source, inside, name, print⟩ := exists_source parts among
    refine ⟨source.1, name, fun value listed => ?_⟩
    rw [print, tells source inside value listed]
  once := names_of_parts parts ▸ once

/-- No two fields have one name. -/
theorem members_unique {v w : Value} (first : (name, v) ∈ c.members)
    (second : (name, w) ∈ c.members) : v = w := by
  have distinct : (c.members.map Prod.fst).Nodup := (by decide : fieldNames.Nodup)
  exact congrArg Prod.snd (List.inj_on_of_nodup_map distinct first second rfl)

theorem replacing_none (c other : BrokerConfig) : c.replacing [] other = c := rfl

/-- A configuration is read from every text that holds its fields, in whatever order, with whatever
members of other names, and with the default configuration's values for the fields left out. What is
printed for a configuration is read back as it is. -/
theorem fields_kept (c : BrokerConfig) (inRange : c.InRange) :
    (∀ (d : Document) (left : List String), c.Holds d left →
      ofJson (String.ofList d.text) = .ok (c.replacing left default)) ∧
    ofJson c.json.text = .ok c := by
  have reads (d : Document) (left : List String) (holds : c.Holds d left) :
      ofJson (String.ofList d.text) = .ok (c.replacing left default) := by
    rw [ofJson, Text.glyphs, String.toList_ofList]
    exact reads_document inRange holds
  refine ⟨reads, ?_⟩
  obtain ⟨d, text, parts⟩ := exists_document c.members
  have holds : c.Holds d [] := by
    refine holds_of_parts parts (fun m inside value listed => members_unique inside listed) ?_
    have names : c.members.map (fun m => some m.1) = fieldNames.map some := rfl
    rw [names]
    decide
  have read := reads d [] holds
  rw [text, replacing_none] at read
  exact read

/-- The history stands before the servers, of which there are none, a member of another name holds
an object that has one of the fields' names, and the bucket and most other fields are left out. -/
theorem fields_kept_shuffled :
    ofJson (Value.object [("history", .integer (-9)), ("note", .object [("bucket", .natural 1)]),
        ("username", .null), ("servers", .array [])]).text =
      .ok { default with servers := [], history := -9 } := by
  let c : BrokerConfig := { default with servers := [], bucket := "own", history := -9 }
  obtain ⟨d, text, parts⟩ := exists_document [("history", .integer (-9)),
    ("note", .object [("bucket", .natural 1)]), ("username", .null), ("servers", .array [])]
  have holds : c.Holds d (fieldNames.filter (· ∉ ["history", "username", "servers"])) := by
    refine holds_of_parts parts ?_ (by decide)
    simp [c, members, default, orNull]
  have inRange : c.InRange := ⟨by decide, nofun, nofun, by decide⟩
  have read := (fields_kept c inRange).1 d _ holds
  rw [text] at read
  exact read

end BrokerConfig

end LeaseElection
