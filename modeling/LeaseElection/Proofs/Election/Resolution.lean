import LeaseElection.Election.Resolution
import LeaseElection.Proofs.Election.Validation
import LeaseElection.Proofs.Text.Blank

namespace LeaseElection

namespace Surroundings

variable {field text : String} {source : Except String String} {make : String → String}

/-- The source has no text, or none but blanks. -/
def Barren (source : Except String String) : Prop := ∀ text, source = .ok text → Text.AllBlank text

/-- A field, filled with what is made of the text of a source if it is blank. -/
def fill (field : String) (source : Except String String) (make : String → String)
    (unreadable : String → ConfigError) (empty : ConfigError) : Except ConfigError String :=
  if Text.AllBlank field then
    match source with
    | .error reason => .error (unreadable reason)
    | .ok text => if Text.AllBlank text then .error empty else .ok (make text)
  else .ok field

theorem fill_of_not_allBlank {unreadable : String → ConfigError} {empty : ConfigError}
    (given : ¬ Text.AllBlank field) : fill field source make unreadable empty = .ok field :=
  if_neg given

/-- The text of a field that is its own, or made of the text of the source. -/
inductive Filled (field : String) (source : Except String String) (make : String → String) :
    String → Prop
  | own (given : ¬ Text.AllBlank field) : Filled field source make field
  | made (text : String) (blank : Text.AllBlank field) (found : source = .ok text)
      (present : ¬ Text.AllBlank text) : Filled field source make (make text)

theorem fill_cases (field : String) (source : Except String String) (make : String → String)
    (unreadable : String → ConfigError) (empty : ConfigError) :
    (∃ text, fill field source make unreadable empty = .ok text ∧
      Filled field source make text) ∨
    (∃ reason, fill field source make unreadable empty = .error (unreadable reason) ∧
      Text.AllBlank field ∧ source = .error reason) ∨
    (fill field source make unreadable empty = .error empty ∧ Text.AllBlank field ∧
      ∃ text, source = .ok text ∧ Text.AllBlank text) := by
  unfold fill
  split
  next blank =>
    cases source with
    | error reason => exact .inr (.inl ⟨reason, rfl, blank, rfl⟩)
    | ok text =>
        dsimp only
        split
        next barren => exact .inr (.inr ⟨rfl, blank, text, rfl, barren⟩)
        next present => exact .inl ⟨_, rfl, .made text blank rfl present⟩
  next given => exact .inl ⟨_, rfl, .own given⟩

namespace Filled

variable (filled : Filled field source make text)
include filled

theorem eq_own (given : ¬ Text.AllBlank field) : text = field := by
  cases filled with
  | own => rfl
  | made _ blank => exact absurd blank given

theorem exists_made (blank : Text.AllBlank field) :
    ∃ found, source = .ok found ∧ ¬ Text.AllBlank found ∧ text = make found := by
  cases filled with
  | own given => exact absurd blank given
  | made found _ known present => exact ⟨found, known, present, rfl⟩

theorem not_barren (blank : Text.AllBlank field) : ¬ Barren source := by
  obtain ⟨found, known, present, -⟩ := filled.exists_made blank
  exact fun barren => present (barren found known)

theorem not_allBlank
    (kept : ∀ found, ¬ Text.AllBlank found → ¬ Text.AllBlank (make found)) :
    ¬ Text.AllBlank text := by
  cases filled with
  | own given => exact given
  | made found _ _ present => exact kept found present

end Filled

theorem barren_of_error {reason : String} (unknown : source = .error reason) : Barren source := by
  intro text known
  cases unknown.symm.trans known

theorem barren_of_allBlank (known : source = .ok text) (blank : Text.AllBlank text) :
    Barren source := by
  intro other also
  cases known.symm.trans also
  exact blank

/-- An identity that is made of the name of a host. -/
def identityOf (s : Surroundings) (host : String) : String := Text.trimmed host ++ "_" ++ s.unique

theorem identityOf_not_allBlank (s : Surroundings) (host : String) :
    ¬ Text.AllBlank (s.identityOf host) := by
  intro blank
  exact absurd (blank '_' (by simp [identityOf])) (by decide)

end Surroundings

/-- What a failure says is true: something is blank, and the source that it names is barren. -/
def ConfigError.Misses (c : ElectionConfig) (s : Surroundings) : ConfigError → Prop
  | .hostNameUnreadable reason => Text.AllBlank c.identity ∧ s.hostName = .error reason
  | .hostNameBlank =>
      Text.AllBlank c.identity ∧ ∃ host, s.hostName = .ok host ∧ Text.AllBlank host
  | .namespaceUnreadable path reason =>
      Text.AllBlank c.nameSpace ∧ path = c.namespaceFile ∧ s.readText path = .error reason
  | .namespaceBlank path =>
      Text.AllBlank c.nameSpace ∧ path = c.namespaceFile ∧
        ∃ text, s.readText path = .ok text ∧ Text.AllBlank text
  | _ => False

namespace ElectionConfig

open Surroundings (Barren Filled fill)

variable {c : ElectionConfig} {s : Surroundings} {e : ConfigError} {identity nameSpace : String}

/-- Both fields are filled alike, each from a source of its own, and the identity first. -/
theorem resolve_eq (c : ElectionConfig) (s : Surroundings) : c.resolve s =
    (do c.validate
        let identity ← fill c.identity s.hostName s.identityOf .hostNameUnreadable .hostNameBlank
        let nameSpace ← fill c.nameSpace (s.readText c.namespaceFile) Text.trimmed
          (.namespaceUnreadable c.namespaceFile) (.namespaceBlank c.namespaceFile)
        return { c with identity, nameSpace }) := by
  unfold resolve fill
  congr 1
  funext
  split <;> split <;> rfl

/-- What resolving comes to. -/
inductive Resolution (c : ElectionConfig) (s : Surroundings) :
    Except ConfigError ElectionConfig → Prop
  | refused (e : ConfigError) (invalid : c.validate = .error e) : Resolution c s (.error e)
  | missing (e : ConfigError) (valid : c.validate = .ok ()) (misses : e.Misses c s) :
      Resolution c s (.error e)
  | filled (identity nameSpace : String) (valid : c.validate = .ok ())
      (named : Filled c.identity s.hostName s.identityOf identity)
      (placed : Filled c.nameSpace (s.readText c.namespaceFile) Text.trimmed nameSpace) :
      Resolution c s (.ok { c with identity, nameSpace })

theorem resolution (c : ElectionConfig) (s : Surroundings) : Resolution c s (c.resolve s) := by
  rw [resolve_eq]
  cases valid : c.validate with
  | error e => exact .refused e valid
  | ok =>
      obtain ⟨identity, first, named⟩ | ⟨reason, first, blank, unknown⟩ |
        ⟨first, blank, host, known, barren⟩ :=
          Surroundings.fill_cases c.identity s.hostName s.identityOf .hostNameUnreadable
            .hostNameBlank
      · obtain ⟨nameSpace, second, placed⟩ | ⟨reason, second, blank, unreadable⟩ |
          ⟨second, blank, text, found, barren⟩ :=
            Surroundings.fill_cases c.nameSpace (s.readText c.namespaceFile) Text.trimmed
              (.namespaceUnreadable c.namespaceFile) (.namespaceBlank c.namespaceFile)
        · rw [first, second]
          exact .filled identity nameSpace valid named placed
        · rw [first, second]
          exact .missing _ valid ⟨blank, rfl, unreadable⟩
        · rw [first, second]
          exact .missing _ valid ⟨blank, rfl, text, found, barren⟩
      · rw [first]
        exact .missing _ valid ⟨blank, unknown⟩
      · rw [first]
        exact .missing _ valid ⟨blank, host, known, barren⟩

/-- A valid configuration without blanks is what it resolves to, wherever it is resolved. -/
theorem resolve_of_not_allBlank (valid : c.validate = .ok ()) (named : ¬ Text.AllBlank c.identity)
    (placed : ¬ Text.AllBlank c.nameSpace) (s : Surroundings) : c.resolve s = .ok c := by
  rw [resolve_eq, valid, Surroundings.fill_of_not_allBlank named,
    Surroundings.fill_of_not_allBlank placed]
  rfl

theorem validate_ok (valid : c.validate = .ok ()) :
    0 < c.retryPeriod.nanoseconds ∧ c.retryPeriod.nanoseconds < c.renewDeadline.nanoseconds ∧
      c.renewDeadline.nanoseconds < c.lease.nanoseconds := by
  have verdict := c.validate_verdict
  rw [valid] at verdict
  cases verdict with
  | accepted inOrder doubles => exact ⟨inOrder.positive, inOrder.retries, inOrder.outlasts⟩

theorem resolve_ok {raw c : ElectionConfig} {s : Surroundings} (resolved : raw.resolve s = .ok c) :
    c.identity ≠ "" ∧ c.renewDeadline.nanoseconds < c.lease.nanoseconds := by
  have outcome := raw.resolution s
  rw [resolved] at outcome
  cases outcome with
  | filled identity nameSpace valid named placed =>
      refine ⟨?_, (validate_ok valid).2.2⟩
      rintro rfl
      exact named.not_allBlank (fun host _ => s.identityOf_not_allBlank host) nofun

/-- The configuration is the other one with its blanks filled in, and nothing else. -/
structure Completes (r c : ElectionConfig) (s : Surroundings) : Prop where
  rest : r = { c with identity := r.identity, nameSpace := r.nameSpace }
  ownIdentity : ¬ Text.AllBlank c.identity → r.identity = c.identity
  madeIdentity : Text.AllBlank c.identity →
    ∃ host, s.hostName = .ok host ∧ r.identity = Text.trimmed host ++ "_" ++ s.unique
  ownNameSpace : ¬ Text.AllBlank c.nameSpace → r.nameSpace = c.nameSpace
  readNameSpace : Text.AllBlank c.nameSpace →
    ∃ text, s.readText c.namespaceFile = .ok text ∧ r.nameSpace = Text.trimmed text
  named : ¬ Text.AllBlank r.identity
  placed : ¬ Text.AllBlank r.nameSpace

theorem completes_of_filled (named : Filled c.identity s.hostName s.identityOf identity)
    (placed : Filled c.nameSpace (s.readText c.namespaceFile) Text.trimmed nameSpace) :
    Completes { c with identity, nameSpace } c s where
  rest := rfl
  ownIdentity := named.eq_own
  madeIdentity blank := by
    obtain ⟨host, known, -, made⟩ := named.exists_made blank
    exact ⟨host, known, made⟩
  ownNameSpace := placed.eq_own
  readNameSpace blank := by
    obtain ⟨text, found, -, made⟩ := placed.exists_made blank
    exact ⟨text, found, made⟩
  named := named.not_allBlank fun host _ => s.identityOf_not_allBlank host
  placed := placed.not_allBlank fun _ => mt Text.allBlank_trimmed_iff.mp

/-- Something is blank, and the source for it is barren. -/
def Lacks (c : ElectionConfig) (s : Surroundings) : Prop :=
  Text.AllBlank c.identity ∧ Barren s.hostName ∨
    Text.AllBlank c.nameSpace ∧ Barren (s.readText c.namespaceFile)

theorem lacks_of_misses (misses : e.Misses c s) : c.Lacks s := by
  cases e with
  | hostNameUnreadable reason =>
      obtain ⟨blank, unknown⟩ := misses
      exact .inl ⟨blank, Surroundings.barren_of_error unknown⟩
  | hostNameBlank =>
      obtain ⟨blank, host, known, barren⟩ := misses
      exact .inl ⟨blank, Surroundings.barren_of_allBlank known barren⟩
  | namespaceUnreadable path reason =>
      obtain ⟨blank, rfl, unreadable⟩ := misses
      exact .inr ⟨blank, Surroundings.barren_of_error unreadable⟩
  | namespaceBlank path =>
      obtain ⟨blank, rfl, text, found, barren⟩ := misses
      exact .inr ⟨blank, Surroundings.barren_of_allBlank found barren⟩
  | _ => exact misses.elim

/-- What the check refuses is refused for the same reason wherever it is resolved. What it accepts
gets its blanks filled in and is left alone otherwise, and resolving the outcome, wherever, changes
nothing more. It fails exactly if something is blank and the source for it has nothing but blanks
or cannot be read, and says so. -/
theorem resolution_kept (c : ElectionConfig) (s : Surroundings) :
    (∀ e, c.validate = .error e → c.resolve s = .error e) ∧
    (c.validate = .ok () →
      (∀ r, c.resolve s = .ok r → r.Completes c s ∧ ∀ later, r.resolve later = .ok r) ∧
      (∀ e, c.resolve s = .error e → e.Misses c s) ∧
      ((∃ e, c.resolve s = .error e) ↔ c.Lacks s)) := by
  have outcome := c.resolution s
  generalize c.resolve s = result at outcome
  cases outcome with
  | refused e invalid =>
      rw [invalid]
      refine ⟨?_, nofun⟩
      rintro _ ⟨⟩
      rfl
  | missing e valid misses =>
      rw [valid]
      refine ⟨nofun, fun _ => ⟨nofun, ?_, fun _ => lacks_of_misses misses, fun _ => ⟨e, rfl⟩⟩⟩
      rintro _ ⟨⟩
      exact misses
  | filled identity nameSpace valid named placed =>
      rw [valid]
      refine ⟨nofun, fun _ => ⟨?_, nofun, nofun, ?_⟩⟩
      · rintro _ ⟨⟩
        have completes := completes_of_filled named placed
        exact ⟨completes, resolve_of_not_allBlank valid completes.named completes.placed⟩
      · rintro (⟨blank, barren⟩ | ⟨blank, barren⟩)
        · exact absurd barren (named.not_barren blank)
        · exact absurd barren (placed.not_barren blank)

/-- Nothing is given but the name; the identity is an em space. -/
def sparse : ElectionConfig := { default with identity := "\u2003", name := "scheduler" }

def furnished : Surroundings := ⟨.ok " worker\n", "1", fun _ => .ok "\u00a0billing\n"⟩

def bare : Surroundings := ⟨.error "no uts namespace", "2", fun _ => .error "absent"⟩

def complete : ElectionConfig := { sparse with identity := "worker_1", nameSpace := "billing" }

/-- It gets the texts without the blanks around them, and keeps them where there is nothing to read. -/
theorem resolution_kept_sparse : sparse.validate = .ok () ∧
    sparse.resolve furnished = .ok complete ∧ complete.Completes sparse furnished ∧
      complete.resolve bare = .ok complete ∧ sparse.Lacks bare := by
  have valid : sparse.validate = .ok () := rfl
  have resolved : sparse.resolve furnished = .ok complete := rfl
  have failed : ∃ e, sparse.resolve bare = .error e := ⟨_, rfl⟩
  obtain ⟨-, accepted⟩ := resolution_kept sparse furnished
  obtain ⟨completes, stable⟩ := (accepted valid).1 complete resolved
  obtain ⟨-, unhelped⟩ := resolution_kept sparse bare
  exact ⟨valid, resolved, completes, stable bare, (unhelped valid).2.2.mp failed⟩

end ElectionConfig

end LeaseElection
