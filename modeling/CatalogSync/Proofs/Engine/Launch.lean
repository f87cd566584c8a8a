import CatalogSync.Engine.Round
import Mathlib.Order.Basic
import Mathlib.Tactic.Ring

/-!
# Putting settings to use

Settings are checked once, when they are read. What is set up from them later has conditions of its own: rounds need a period,
and there is a largest number of permits. The check answers for the first condition and not for the second. Once everything is set
up, the loop goes on for ever: its rounds are due at the points of one grid, whenever they really begin.
-/

namespace CatalogSync.Engine

namespace Loop

/-- The loop after rounds that began at the given times, none of them before it was due. -/
inductive Ran (l : Loop) : List Nat → Loop → Prop
  | start : Ran l [] l
  | round {times : List Nat} {l' : Loop} {now : Nat} (before : Ran l times l') (due : l'.due ≤ now) :
      Ran l (times ++ [now]) (l'.next now)

/-- The next round is due at the first point of the grid after the time at which a round began. -/
theorem due_next {l : Loop} {now : Nat} (hd : l.due ≤ now) :
    (l.next now).due = l.due + l.period * ((now - l.due) / l.period + 1) := by
  have hdiv := Nat.div_add_mod (now - l.due) l.period
  have hle := Nat.mod_le (now - l.due) l.period
  simp only [next, Nat.mul_add, Nat.mul_one]
  omega

/-- A round is due after the one before it has begun, and at most one period later. -/
theorem lt_due_next {l : Loop} (hp : 0 < l.period) (now : Nat) :
    now < (l.next now).due ∧ (l.next now).due ≤ now + l.period := by
  have hlt := Nat.mod_lt (now - l.due) hp
  simp only [next]
  omega

/-- What holds of a loop whenever some rounds have begun. -/
structure Steady (l : Loop) (times : List Nat) (l' : Loop) : Prop where
  /-- The period stays what it is, and so there is one. -/
  period : l'.period = l.period
  pos : 0 < l'.period
  /-- The next round is due at a point of the grid, at least as many periods from the start as rounds have begun. -/
  due : ∃ k, times.length ≤ k ∧ l'.due = l.due + l.period * k
  /-- The rounds began one after the other. -/
  increasing : times.Pairwise (· < ·)
  /-- The next round is due after all that have begun. -/
  later : ∀ t ∈ times, l.due ≤ t ∧ t < l'.due
  /-- No round is left out unless the one before it began late. -/
  soon : ∀ t ∈ times.getLast?, l'.due ≤ t + l.period

/-- A loop with a period stays steady. -/
theorem Ran.steady {l l' : Loop} {times : List Nat} (hp : 0 < l.period) (h : Ran l times l') : Steady l times l' := by
  induction h with
  | start => exact ⟨rfl, hp, ⟨0, Nat.le_refl 0, rfl⟩, .nil, by simp, by simp⟩
  | @round times l' now _ hd ih =>
    obtain ⟨hlt, hle⟩ := lt_due_next ih.pos now
    obtain ⟨k, hk, hdue⟩ := ih.due
    refine ⟨ih.period, ih.pos, ⟨k + ((now - l'.due) / l'.period + 1), ?_, ?_⟩, ?_, ?_, ?_⟩
    · rw [List.length_append, List.length_singleton]
      exact Nat.add_le_add hk (Nat.le_add_left 1 _)
    · rw [due_next hd, hdue, ih.period]
      ring
    · refine List.pairwise_append.2 ⟨ih.increasing, List.pairwise_singleton _ _, fun t ht u hu => ?_⟩
      rw [List.mem_singleton.1 hu]
      exact Nat.lt_of_lt_of_le (ih.later t ht).2 hd
    · intro t ht
      obtain ht | ht := List.mem_append.1 ht
      · have := ih.later t ht
        omega
      · rw [List.mem_singleton.1 ht]
        omega
    · simp only [List.getLast?_concat, Option.mem_some_iff, forall_eq']
      rwa [← ih.period]

end Loop

/-- What is set up once when settings are put to use. -/
structure Launched where
  scheduler : Scheduler
  permits : Permits
  loop : Loop

/-- Puts settings to use: a synchronizer, a scheduler for it, the permits of its ticks, and a loop that begins now; or why one of
these cannot be. -/
def launch (s : Settings) (now : Nat) : Except String Launched := do
  let scheduler := Scheduler.ofSettings (.ofSettings s.onlySubmodels s.tickTimeoutSecs) s
  let permits ← Permits.create s.maxConcurrentTicks
  let loop ← Loop.start now scheduler.period
  return ⟨scheduler, permits, loop⟩

/-- Settings pass their check exactly if none of the three numbers is zero. -/
theorem validate_eq_ok {s : Settings} :
    s.validate = .ok () ↔ 0 < s.syncPeriodSecs ∧ 0 < s.tickTimeoutSecs ∧ 0 < s.maxConcurrentTicks := by
  simp only [Settings.validate, Settings.positive, bind, Except.bind, Nat.pos_iff_ne_zero]
  by_cases h₁ : s.syncPeriodSecs = 0 <;> by_cases h₂ : s.tickTimeoutSecs = 0 <;> by_cases h₃ : s.maxConcurrentTicks = 0 <;>
    simp [h₁, h₂, h₃]

/-- Settings whose number of permits can be had, and which have a period, are put to use. -/
theorem launch_eq_ok {s : Settings} (now : Nat) (hn : s.maxConcurrentTicks ≤ Permits.most) (hp : 0 < s.syncPeriodSecs) :
    launch s now = .ok ⟨.ofSettings (.ofSettings s.onlySubmodels s.tickTimeoutSecs) s, .ofNat s.maxConcurrentTicks,
      ⟨now, 1000 * s.syncPeriodSecs⟩⟩ := by
  have hne : 1000 * s.syncPeriodSecs ≠ 0 := by omega
  simp [launch, Permits.create, Loop.start, Scheduler.ofSettings, hn, hne, bind, Except.bind, pure, Except.pure]

/-- Too many permits stop everything. -/
theorem launch_eq_error {s : Settings} (now : Nat) (hn : Permits.most < s.maxConcurrentTicks) :
    launch s now = .error ("a semaphore may not have more than MAX_PERMITS permits (" ++ toString Permits.most ++ ")") := by
  simp [launch, Permits.create, Nat.not_le.2 hn, bind, Except.bind]

/-- Settings that pass their check are put to use exactly if the number of permits can be had; the only other thing that can
happen is that the permits are refused. What is set up has a free permit, limits each tick to some time, and has a loop whose
rounds are due for ever, at the points of a grid that begins now. -/
theorem launches {s : Settings} (now : Nat) (h : s.validate = .ok ()) :
    ((∃ l, launch s now = .ok l) ↔ s.maxConcurrentTicks ≤ Permits.most) ∧
    (∀ reason, launch s now = .error reason →
      reason = "a semaphore may not have more than MAX_PERMITS permits (" ++ toString Permits.most ++ ")") ∧
    ∀ l, launch s now = .ok l →
      0 < l.permits.free ∧ l.permits = .ofNat s.maxConcurrentTicks ∧
      l.scheduler.synchronizer.timeout = 1000 * s.tickTimeoutSecs ∧ 0 < l.scheduler.synchronizer.timeout ∧
      l.loop.due = now ∧ l.loop.period = l.scheduler.period ∧ l.loop.period = 1000 * s.syncPeriodSecs ∧
      ∀ times l', l.loop.Ran times l' → l.loop.Steady times l' := by
  obtain ⟨hperiod, htimeout, hticks⟩ := validate_eq_ok.1 h
  obtain hn | hn := le_or_gt s.maxConcurrentTicks Permits.most
  · have hl := launch_eq_ok now hn hperiod
    refine ⟨⟨fun _ => hn, fun _ => ⟨_, hl⟩⟩, fun reason he => ?_, fun l he => ?_⟩
    · cases hl.symm.trans he
    · cases hl.symm.trans he
      have hpos : 0 < 1000 * s.syncPeriodSecs := by omega
      exact ⟨hticks, rfl, rfl, by simp only [Scheduler.ofSettings, Synchronizer.ofSettings]; omega, rfl, rfl, rfl,
        fun times l' hr => hr.steady hpos⟩
  · have hl := launch_eq_error now hn
    refine ⟨⟨fun ⟨l, he⟩ => ?_, fun hle => ?_⟩, fun reason he => ?_, fun l he => ?_⟩
    · cases hl.symm.trans he
    · omega
    · cases hl.symm.trans he
      rfl
    · cases hl.symm.trans he

/-- The settings where nothing else is said are put to use; after a round that begins late the loop is on its grid again. -/
theorem launches_default : ∃ l l', launch .default 0 = .ok l ∧ l.loop.Ran [0, 120000] l' ∧ l'.due = 150000 ∧
    l.loop.Steady [0, 120000] l' := by
  obtain ⟨⟨_, hl⟩, _, h⟩ := launches 0 (s := .default) rfl
  obtain ⟨l, hl⟩ := hl (by decide)
  obtain ⟨-, -, -, -, hdue, -, hperiod, hsteady⟩ := h l hl
  have hr : l.loop.Ran [0, 120000] ((l.loop.next 0).next 120000) :=
    .round (.round .start (Nat.le_of_eq hdue)) (by simp only [Loop.next, hdue, hperiod]; decide)
  exact ⟨l, _, hl, hr, by simp only [Loop.next, hdue, hperiod]; decide, hsteady _ _ hr⟩

/-- Settings whose numbers all fit a word can pass their check and not be put to use: it has no upper limit for the permits. -/
theorem launch_refuses_validated :
    ¬ ∀ (s : Settings) (now : Nat), s.syncPeriodSecs ≤ Word.greatest → s.tickTimeoutSecs ≤ Word.greatest →
      s.maxConcurrentTicks ≤ Word.greatest → s.validate = .ok () → ∃ l, launch s now = .ok l := by
  intro h
  obtain ⟨l, hl⟩ := h { Settings.default with maxConcurrentTicks := Permits.most + 1 } 0 (by decide) (by decide) (by decide) rfl
  rw [launch_eq_error 0 (Nat.lt_succ_self _)] at hl
  cases hl

end CatalogSync.Engine
