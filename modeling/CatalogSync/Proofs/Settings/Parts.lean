import CatalogSync.Proofs.Table
import CatalogSync.Settings.Load

/-!
# The parts of settings

Each part of the settings has a name, a type, and a conversion from what the name was set to. Fields with different names set the parts of
their names, each apart from the others (`Settings.setAll_eq_ok_iff`), and settings that pass the check are those whose numbers are not
zero (`Settings.validate_eq_ok_iff`).
-/

namespace CatalogSync.Settings

/-- The parts of settings. -/
inductive Part where
  | syncPeriodSecs | tickTimeoutSecs | onlySubmodels | maxConcurrentTicks | services | registries
  deriving DecidableEq, Repr

namespace Part

/-- The name of a part. -/
def name : Part → String
  | syncPeriodSecs => "sync_period_secs"
  | tickTimeoutSecs => "tick_timeout_secs"
  | onlySubmodels => "only_submodels"
  | maxConcurrentTicks => "max_concurrent_ticks"
  | services => "services"
  | registries => "registries"

/-- What a part is. -/
@[reducible] def Value : Part → Type
  | syncPeriodSecs | tickTimeoutSecs | maxConcurrentTicks => Nat
  | onlySubmodels => Bool
  | services | registries => List Endpoint

/-- Whether a part is a number or a switch. The others are lists of endpoints. -/
def isScalar : Part → Bool
  | services | registries => false
  | _ => true

/-- The value of a part from a setting. -/
def convert : (p : Part) → Setting → Except SettingsFault p.Value
  | syncPeriodSecs, v | tickTimeoutSecs, v | maxConcurrentTicks, v => v.toWord
  | onlySubmodels, v => v.toSwitch
  | services, v | registries, v => Endpoint.listOfSetting v

/-- The value of a part from the setting that it has, if it has one. -/
def convertOr (p : Part) (default : p.Value) : Option Setting → Except SettingsFault p.Value
  | none => .ok default
  | some v => p.convert v

/-- The values that pass the check of a part. -/
def Accepts : (p : Part) → p.Value → Prop
  | syncPeriodSecs, n | tickTimeoutSecs, n | maxConcurrentTicks, n => 0 < n
  | onlySubmodels, _ | services, _ | registries, _ => True

/-- Parts have distinct names. -/
theorem name_injective {p q : Part} (h : p.name = q.name) : p = q := by
  revert h
  cases p <;> cases q <;> decide

end Part

/-- A part of settings. -/
def get (s : Settings) : (p : Part) → p.Value
  | .syncPeriodSecs => s.syncPeriodSecs
  | .tickTimeoutSecs => s.tickTimeoutSecs
  | .onlySubmodels => s.onlySubmodels
  | .maxConcurrentTicks => s.maxConcurrentTicks
  | .services => s.services
  | .registries => s.registries

/-- Settings with a part set. -/
def set (s : Settings) : (p : Part) → p.Value → Settings
  | .syncPeriodSecs, n => { s with syncPeriodSecs := n }
  | .tickTimeoutSecs, n => { s with tickTimeoutSecs := n }
  | .onlySubmodels, b => { s with onlySubmodels := b }
  | .maxConcurrentTicks, n => { s with maxConcurrentTicks := n }
  | .services, l => { s with services := l }
  | .registries, l => { s with registries := l }

variable {s s' : Settings} {p q : Part}

theorem get_set_self (x : p.Value) : (s.set p x).get p = x := by cases p <;> rfl

/-- Setting one part leaves the others as they were. -/
theorem get_set_of_ne (x : p.Value) (h : q ≠ p) : (s.set p x).get q = s.get q := by
  cases p <;> cases q <;> first | rfl | exact absurd rfl h

/-- Settings are what their parts are. -/
theorem ext_get (h : ∀ p, s.get p = s'.get p) : s = s' := by
  cases s
  cases s'
  have hperiod := h .syncPeriodSecs
  have htimeout := h .tickTimeoutSecs
  have honly := h .onlySubmodels
  have hmax := h .maxConcurrentTicks
  have hservices := h .services
  have hregistries := h .registries
  simp only [get] at hperiod htimeout honly hmax hservices hregistries
  subst hperiod htimeout honly hmax hservices hregistries
  rfl

/-- The field of a part's name sets the part. -/
theorem setFrom_name (s : Settings) (p : Part) (v : Setting) :
    s.setFrom p.name v = ((p.convert v).map (s.set p)).mapError (.below p.name) := by
  cases p <;> rfl

/-- The field of another name sets nothing. -/
theorem setFrom_of_ne {name : String} (h : ∀ p : Part, p.name ≠ name) (s : Settings) (v : Setting) : s.setFrom name v = .ok s := by
  have hne : ∀ p : Part, (name == p.name) = false := fun p => beq_false_of_ne (h p).symm
  have hperiod := hne .syncPeriodSecs
  have htimeout := hne .tickTimeoutSecs
  have honly := hne .onlySubmodels
  have hmax := hne .maxConcurrentTicks
  have hservices := hne .services
  have hregistries := hne .registries
  simp only [Part.name] at hperiod htimeout honly hmax hservices hregistries
  simp only [setFrom, hperiod, htimeout, honly, hmax, hservices, hregistries, Bool.false_eq_true, if_false]
  rfl

/-- Fields with different names set the parts of their names, and leave the others. -/
theorem setAll_eq_ok_iff {fields : List (String × Setting)} (hn : (fields.map Prod.fst).Nodup) :
    s.setAll fields = .ok s' ↔ ∀ p : Part, p.convertOr (s.get p) (fields.lookup p.name) = .ok (s'.get p) := by
  induction fields generalizing s with
  | nil =>
    refine ⟨fun h p => ?_, fun h => congrArg _ (ext_get fun p => Except.ok.inj (h p))⟩
    cases h
    rfl
  | cons field rest ih =>
    obtain ⟨name, v⟩ := field
    rw [List.map_cons, List.nodup_cons] at hn
    by_cases hp : ∃ p : Part, p.name = name
    · obtain ⟨p, rfl⟩ := hp
      have hlookup : List.lookup p.name ((p.name, v) :: rest) = some v := List.lookup_cons_self
      rw [setAll, setFrom_name]
      cases hv : p.convert v with
      | error e =>
        refine ⟨(nomatch ·), fun h => ?_⟩
        have hconvert := h p
        rw [hlookup] at hconvert
        cases hv.symm.trans hconvert
      | ok x =>
        refine (ih hn.2).trans (forall_congr' fun q => ?_)
        by_cases hq : q = p
        · subst hq
          have hrest : rest.lookup q.name = none := Table.lookup_eq_none hn.1
          rw [hrest, hlookup, get_set_self, Part.convertOr, Part.convertOr, hv]
        · have hne : (q.name == p.name) = false := beq_false_of_ne fun he => hq (Part.name_injective he)
          rw [get_set_of_ne x hq, List.lookup_cons, hne]
    · rw [setAll, setFrom_of_ne (fun p he => hp ⟨p, he⟩)]
      refine (ih hn.2).trans (forall_congr' fun q => ?_)
      have hne : (q.name == name) = false := beq_false_of_ne fun he => hp ⟨q, he⟩
      rw [List.lookup_cons, hne]

/-- The check accepts the positive numbers. -/
theorem positive_eq_ok_iff {name : String} {n : Nat} : positive name n = .ok () ↔ 0 < n := by
  rw [positive, Nat.pos_iff_ne_zero]
  split <;> simp [*]

/-- The settings that pass the check are those whose parts do. -/
theorem validate_eq_ok_iff : s.validate = .ok () ↔ ∀ p : Part, p.Accepts (s.get p) := by
  have hseq : ∀ a b : Except SyncError Unit, (a >>= fun _ => b) = .ok () ↔ a = .ok () ∧ b = .ok () := by
    rintro (e | ⟨⟨⟩⟩) b
    · exact ⟨(nomatch ·), fun h => nomatch h.1⟩
    · exact ⟨fun h => ⟨rfl, h⟩, fun h => h.2⟩
  rw [validate, hseq, hseq, positive_eq_ok_iff, positive_eq_ok_iff, positive_eq_ok_iff]
  constructor
  · rintro ⟨hperiod, htimeout, hmax⟩ p
    cases p with
    | syncPeriodSecs => exact hperiod
    | tickTimeoutSecs => exact htimeout
    | maxConcurrentTicks => exact hmax
    | onlySubmodels | services | registries => trivial
  · intro h
    exact ⟨h .syncPeriodSecs, h .tickTimeoutSecs, h .maxConcurrentTicks⟩

end CatalogSync.Settings
