import ClusterClient.Proofs.Endpoint.Acceptance
import ClusterClient.Proofs.Number.Amount
import ClusterClient.Settings.Environment

/-!
# Timeouts that clients are left with

Settings that can be resolved leave a client with an endpoint at least, and with a limit for each phase of an
exchange. One number of seconds for all phases is compared with zero, and refused if it is at most that. Two kinds of
settings get past this comparison with a limit that is not greater than zero: a number that amounts to nothing, with
which every comparison fails, and limits for each phase, which are not compared at all. From the environment, only a
text that spells out such a number gets past it.

## The architecture

* **`Scalar.isNonPositive_eq_true_iff`**, **`Scalar.isPositive_iff`**: the comparison with zero as one of amounts.
* **`TimeoutSetting.resolve_cases`**: what becomes of a setting: it leaves positive limits, escapes, or is refused.
* **`Settings.of_resolve_eq_ok`**, **`resolve_of_ok`**, **`resolve_of_error`**: settings resolve as their endpoints and
  their timeout do.
* **`Environment.settings_cases`**: the timeout that an environment gives.
* **`timeouts_are_positive_where_checked`**: all of it.
-/

namespace ClusterClient

/-! ## Numbers of seconds -/

namespace Scalar

/-- What a scalar amounts to, if it is a number. -/
def amount? : Scalar → Option Amount
  | flag b => some (((b.toNat : ℚ) : WithTop ℚ) : Amount)
  | whole n => some (((n : ℚ) : WithTop ℚ) : Amount)
  | real x => x.amount?
  | _ => none

@[simp] theorem amount?_real (x : Binary64) : (real x).amount? = x.amount? := rfl

/-- A scalar is of a kind that numbers have; it may amount to nothing all the same. -/
def IsNumeric : Scalar → Prop
  | flag _ | whole _ | real _ => True
  | _ => False

/-- The number is greater than zero. -/
def IsPositive (n : Scalar) : Prop := ∃ a, n.amount? = some a ∧ 0 < a

/-- The comparison with zero is one of amounts. Whole numbers and flags amount to rational numbers, and what
amounts to nothing is on neither side. -/
theorem isNonPositive_eq_true_iff {n : Scalar} :
    n.isNonPositive = true ↔ ∃ a, n.amount? = some a ∧ a ≤ 0 := by
  cases n with
  | flag b =>
    show (!b) = true ↔ ∃ a, some (((b.toNat : ℚ) : WithTop ℚ) : Amount) = some a ∧ a ≤ 0
    simp only [Option.some.injEq, exists_eq_left']
    norm_cast
    cases b <;> decide
  | whole n =>
    show decide (n ≤ 0) = true ↔ ∃ a, some (((n : ℚ) : WithTop ℚ) : Amount) = some a ∧ a ≤ 0
    rw [decide_eq_true_eq]
    simp only [Option.some.injEq, exists_eq_left']
    norm_cast
  | real x => exact Binary64.isNonPositive_eq_true_iff
  | null => simp [isNonPositive, amount?]
  | text t => simp [isNonPositive, amount?]
  | foreign => simp [isNonPositive, amount?]

/-- A number is greater than zero if it amounts to something that is not at most zero. -/
theorem isPositive_iff {n : Scalar} : n.IsPositive ↔ n.isNonPositive = false ∧ n.amount? ≠ none := by
  rw [← Bool.not_eq_true, isNonPositive_eq_true_iff, IsPositive]
  cases n.amount? with
  | none => simp
  | some a => simp

/-- What is not above zero is not positive. The other way round fails for what is no number. -/
theorem not_isPositive_of_isNonPositive {n : Scalar} (h : n.isNonPositive = true) : ¬n.IsPositive := by
  rw [isPositive_iff, h]
  exact fun hpositive => Bool.noConfusion hpositive.1

end Scalar

namespace Timeouts

/-- The limits of the phases. -/
def phases (t : Timeouts) : List Scalar := [t.connect, t.read, t.write]

/-- Every phase has a limit that is greater than zero. -/
def ArePositive (t : Timeouts) : Prop := ∀ limit ∈ t.phases, limit.IsPositive

theorem arePositive_iff {t : Timeouts} :
    t.ArePositive ↔ t.connect.IsPositive ∧ t.read.IsPositive ∧ t.write.IsPositive := by
  unfold ArePositive phases
  simp

theorem arePositive_uniform_iff {n : Scalar} : (uniform n).ArePositive ↔ n.IsPositive := by
  rw [arePositive_iff]
  exact ⟨fun h => h.1, fun h => ⟨h, h, h⟩⟩

theorem arePositive_standard : standard.ArePositive := by
  have hpositive (n : Int) (h : (Binary64.ofInt n).isNonPositive = false) :
      (Scalar.real (Binary64.ofInt n)).IsPositive :=
    Scalar.isPositive_iff.2 ⟨h, Binary64.amount?_ofRatio _ _ _⟩
  exact arePositive_iff.2 ⟨hpositive 5 (by decide), hpositive 30 (by decide), hpositive 10 (by decide)⟩

end Timeouts

/-! ## Settings of timeouts -/

namespace TimeoutSetting

/-- The limits that a setting stands for, whether they are sound or not. -/
def meant : TimeoutSetting → Timeouts
  | unset => .standard
  | seconds n => .uniform n
  | each timeouts => timeouts

/-- What is given as one number of seconds for all phases is of a kind that numbers have. -/
def IsNumeric : TimeoutSetting → Prop
  | seconds n => n.IsNumeric
  | _ => True

/-- A setting that leaves a phase without a positive limit and is not refused: a number of seconds that amounts to
nothing, or limits for each phase of which one is not positive. -/
inductive Escapes : TimeoutSetting → Prop
  | nothing {x : Binary64} (h : x.amount? = none) : Escapes (.seconds (.real x))
  | phase {timeouts : Timeouts} (h : ¬timeouts.ArePositive) : Escapes (.each timeouts)

/-- What escapes the check is not positive. -/
theorem Escapes.not_arePositive {s : TimeoutSetting} (h : s.Escapes) : ¬s.meant.ArePositive := by
  cases h with
  | nothing h =>
    intro hpositive
    obtain ⟨a, ha, -⟩ := Timeouts.arePositive_uniform_iff.1 hpositive
    rw [Scalar.amount?_real, h] at ha
    cases ha
  | phase h => exact h

/-- A refused number of seconds is a wrong value, whether it can be shown or not: one of too many digits fails the
message about it, with an error of the same kind. -/
theorem kindName_refusal {n : Scalar} (h : n.isNonPositive = true) : (refusal n).kindName = "ValueError" := by
  unfold refusal
  split
  · next e he =>
    cases n with
    | whole n =>
      rw [Scalar.whyUnshown?] at he
      split at he
      · cases he
      · obtain rfl := Option.some.inj he
        rfl
    | foreign fault => cases h
    | _ => cases he
  · rfl

/-- What becomes of a setting: it leaves positive limits, it escapes, or it is refused. Limits for each phase
are taken as they are, so that they may escape without being compared; one number for all of them is compared
with zero, and only what amounts to nothing gets past the comparison without being positive. -/
theorem resolve_cases {s : TimeoutSetting} (hnumeric : s.IsNumeric) :
    (s.resolve = .ok s.meant ∧ s.meant.ArePositive) ∨
    (s.resolve = .ok s.meant ∧ s.Escapes) ∨
    (∃ n, n.isNonPositive = true ∧ s.resolve = .error (refusal n) ∧ ¬s.meant.ArePositive ∧ ¬s.Escapes) := by
  cases s with
  | unset => exact .inl ⟨rfl, Timeouts.arePositive_standard⟩
  | each timeouts =>
    by_cases h : timeouts.ArePositive
    · exact .inl ⟨rfl, h⟩
    · exact .inr (.inl ⟨rfl, .phase h⟩)
  | seconds n =>
    cases hsign : n.isNonPositive with
    | true =>
      refine .inr (.inr ⟨n, hsign, if_pos hsign, ?_, ?_⟩)
      · rw [meant, Timeouts.arePositive_uniform_iff]
        exact Scalar.not_isPositive_of_isNonPositive hsign
      · -- what amounts to nothing is not at most zero
        intro hescapes
        obtain ⟨a, ha, -⟩ := Scalar.isNonPositive_eq_true_iff.1 hsign
        cases hescapes with
        | nothing h =>
          rw [Scalar.amount?_real, h] at ha
          cases ha
    | false =>
      have hresolve : (seconds n).resolve = .ok (.uniform n) := if_neg (by rw [hsign]; exact Bool.false_ne_true)
      by_cases hamount : n.amount? = none
      · refine .inr (.inl ⟨hresolve, ?_⟩)
        cases n with
        | real x => exact .nothing hamount
        | flag b => cases hamount
        | whole n => cases hamount
        | _ => exact hnumeric.elim
      · exact .inl ⟨hresolve, Timeouts.arePositive_uniform_iff.2 (Scalar.isPositive_iff.2 ⟨hsign, hamount⟩)⟩

end TimeoutSetting

/-! ## Whole settings -/

namespace Settings

variable {settings : Settings} {room : Room}

/-- Settings that resolve have had their endpoints read and their timeouts resolved, and hold what came of both. -/
theorem of_resolve_eq_ok {env : Environment} {r : ResolvedSettings} (h : settings.resolve room env = .ok r) :
    Endpoint.readAll room settings.endpoints = .ok r.endpoints ∧ settings.timeout.resolve = .ok r.timeouts := by
  obtain ⟨endpoints, hread, h⟩ := Except.of_bind h
  obtain ⟨timeouts, htimeouts, h⟩ := Except.of_bind h
  obtain rfl := Except.ok.inj h
  exact ⟨hread, htimeouts⟩

/-- Endpoints and timeouts are all that can go wrong: settings with both resolve. -/
theorem resolve_of_ok (env : Environment) {endpoints : List Endpoint} {timeouts : Timeouts}
    (hread : Endpoint.readAll room settings.endpoints = .ok endpoints) (h : settings.timeout.resolve = .ok timeouts) :
    ∃ r, settings.resolve room env = .ok r ∧ r.timeouts = timeouts := by
  unfold resolve
  rw [hread, h]
  exact ⟨_, rfl, rfl⟩

/-- The timeouts are looked at behind the endpoints, so their failure is told only once all endpoints have been
read. -/
theorem resolve_of_error (env : Environment) {endpoints : List Endpoint} {f : Failure}
    (hread : Endpoint.readAll room settings.endpoints = .ok endpoints) (h : settings.timeout.resolve = .error f) :
    settings.resolve room env = .error f := by
  unfold resolve
  rw [hread, h]
  rfl

/-- The settings are refused for a wrong value. -/
def AreRefused (settings : Settings) (room : Room) (env : Environment) : Prop :=
  ∃ f, settings.resolve room env = .error f ∧ f.kindName = "ValueError"

/-- Whatever settings resolve to has an endpoint, and the limits that were meant; these are positive, or have
escaped. -/
theorem sound_of_resolve (hnumeric : settings.timeout.IsNumeric) {env : Environment} {r : ResolvedSettings}
    (h : settings.resolve room env = .ok r) :
    r.endpoints ≠ [] ∧ r.timeouts = settings.timeout.meant ∧
      (r.timeouts.ArePositive ∨ settings.timeout.Escapes) := by
  obtain ⟨hread, htimeouts⟩ := of_resolve_eq_ok h
  have hsome : r.endpoints ≠ [] := by
    obtain ⟨hsources, heach⟩ := Endpoint.readAll_eq_ok_iff.1 hread
    intro hnone
    rw [hnone] at heach
    exact hsources (List.forall₂_nil_right_iff.1 heach)
  rcases TimeoutSetting.resolve_cases hnumeric with ⟨hmeant, hpositive⟩ | ⟨hmeant, hescapes⟩ | ⟨n, -, hrefused, -⟩
  · obtain heq := Except.ok.inj (htimeouts.symm.trans hmeant)
    exact ⟨hsome, heq, .inl (heq ▸ hpositive)⟩
  · exact ⟨hsome, Except.ok.inj (htimeouts.symm.trans hmeant), .inr hescapes⟩
  · rw [hrefused] at htimeouts
    cases htimeouts

/-- If their endpoints can be read, settings resolve or are refused for a wrong value; they resolve exactly to
positive limits and to those that escape. -/
theorem resolve_cases (hnumeric : settings.timeout.IsNumeric) (env : Environment) {endpoints : List Endpoint}
    (hread : Endpoint.readAll room settings.endpoints = .ok endpoints) :
    ((∃ r, settings.resolve room env = .ok r) ↔ settings.timeout.meant.ArePositive ∨ settings.timeout.Escapes) ∧
    (settings.AreRefused room env ↔ ¬settings.timeout.meant.ArePositive ∧ ¬settings.timeout.Escapes) := by
  rw [← not_or]
  have hresolved {timeouts : Timeouts} (h : settings.timeout.resolve = .ok timeouts) :
      (∃ r, settings.resolve room env = .ok r) ∧ ¬settings.AreRefused room env := by
    obtain ⟨r, hr, -⟩ := resolve_of_ok env hread h
    refine ⟨⟨r, hr⟩, ?_⟩
    rintro ⟨f, hf, -⟩
    rw [hr] at hf
    cases hf
  rcases TimeoutSetting.resolve_cases hnumeric with ⟨hmeant, hpositive⟩ | ⟨hmeant, hescapes⟩ |
    ⟨n, hsign, hrefused, hnone, hcaught⟩
  · obtain ⟨hr, hno⟩ := hresolved hmeant
    exact ⟨iff_of_true hr (.inl hpositive), iff_of_false hno (not_not.2 (.inl hpositive))⟩
  · obtain ⟨hr, hno⟩ := hresolved hmeant
    exact ⟨iff_of_true hr (.inr hescapes), iff_of_false hno (not_not.2 (.inr hescapes))⟩
  · have hfailed := resolve_of_error env hread hrefused
    have hneither : ¬(settings.timeout.meant.ArePositive ∨ settings.timeout.Escapes) := not_or.2 ⟨hnone, hcaught⟩
    refine ⟨iff_of_false ?_ hneither, iff_of_true ⟨_, hfailed, TimeoutSetting.kindName_refusal hsign⟩ hneither⟩
    rintro ⟨r, hr⟩
    rw [hfailed] at hr
    cases hr

end Settings

namespace Environment

/-- A variable that is set to something is read as a number, and refused if it is none. -/
theorem timeout_of_given {vars : Environment} (hgiven : vars.get "ETCD_TIMEOUT" ≠ []) :
    vars.timeout = match Binary64.read? (vars.get "ETCD_TIMEOUT") with
      | some x => .ok (some x)
      | none => .error (.timeoutNotNumber (vars.get "ETCD_TIMEOUT")) :=
  if_neg fun hempty => hgiven (List.isEmpty_iff.1 hempty)

/-- The settings have the timeout that was read, and no timeout if none was given. Nothing else in the environment
keeps them from being made. -/
theorem settings_of_timeout {vars : Environment} {seconds : Option Binary64} (h : vars.timeout = .ok seconds) :
    ∃ s, vars.settings = .ok s ∧
      s.timeout = (seconds.map fun x => TimeoutSetting.seconds (.real x)).getD .unset := by
  unfold settings
  rw [h]
  exact ⟨_, rfl, rfl⟩

/-- The timeout of the settings that an environment gives: none, a number that was read, or a failure for a text
that is no number. -/
theorem settings_cases (vars : Environment) :
    (vars.get "ETCD_TIMEOUT" = [] ∧ ∃ s, vars.settings = .ok s ∧ s.timeout = .unset) ∨
    (∃ x s, Binary64.read? (vars.get "ETCD_TIMEOUT") = some x ∧ vars.settings = .ok s ∧
      s.timeout = .seconds (.real x)) ∨
    (vars.get "ETCD_TIMEOUT" ≠ [] ∧ Binary64.read? (vars.get "ETCD_TIMEOUT") = none ∧
      vars.settings = .error (.timeoutNotNumber (vars.get "ETCD_TIMEOUT"))) := by
  by_cases hempty : vars.get "ETCD_TIMEOUT" = []
  · have htimeout : vars.timeout = .ok none := if_pos (List.isEmpty_iff.2 hempty)
    exact .inl ⟨hempty, settings_of_timeout htimeout⟩
  · have htimeout := timeout_of_given hempty
    cases hread : Binary64.read? (vars.get "ETCD_TIMEOUT") with
    | some x =>
      rw [hread] at htimeout
      obtain ⟨s, hs, hseconds⟩ := settings_of_timeout htimeout
      exact .inr (.inl ⟨x, s, rfl, hs, hseconds⟩)
    | none =>
      rw [hread] at htimeout
      refine .inr (.inr ⟨hempty, rfl, ?_⟩)
      unfold settings
      rw [htimeout]
      rfl

/-- What an environment gives is a number; it escapes exactly if the text spells what amounts to nothing.
Without a text there is no timeout, and nothing escapes. -/
theorem timeout_of_settings {vars : Environment} {s : Settings} (h : vars.settings = .ok s) :
    s.timeout.IsNumeric ∧ (s.timeout.Escapes ↔ Binary64.SpellsNothing (vars.get "ETCD_TIMEOUT")) ∧
      ∀ x, Binary64.read? (vars.get "ETCD_TIMEOUT") = some x → s.timeout = .seconds (.real x) := by
  rw [← Binary64.exists_read?_iff_spellsNothing]
  -- no timeout is given, one that is a number, or one that is none and leaves no settings
  rcases vars.settings_cases with ⟨hempty, s', hs, hunset⟩ | ⟨x, s', hread, hs, hseconds⟩ | ⟨-, -, hs⟩
  · obtain rfl := Except.ok.inj (hs.symm.trans h)
    have hnone : Binary64.read? (vars.get "ETCD_TIMEOUT") = none := by
      rw [hempty]
      decide
    rw [hunset, hnone]
    refine ⟨trivial, ⟨?_, ?_⟩, ?_⟩
    · intro hescapes
      cases hescapes
    · rintro ⟨x, hx, -⟩
      cases hx
    · intro x hx
      cases hx
  · obtain rfl := Except.ok.inj (hs.symm.trans h)
    rw [hseconds, hread]
    refine ⟨trivial, ⟨?_, ?_⟩, ?_⟩
    · intro hescapes
      cases hescapes with
      | nothing hnothing => exact ⟨x, rfl, hnothing⟩
    · rintro ⟨y, hy, hnothing⟩
      obtain rfl := Option.some.inj hy
      exact .nothing hnothing
    · intro y hy
      rw [Option.some.inj hy]
  · rw [hs] at h
    cases h

end Environment

/-- **Timeouts are positive where they are checked.** Whatever settings resolve to has an endpoint, and the limits
that were given or the standard ones; these are all greater than zero unless they escape, that is, unless one number of
seconds amounts to nothing or the limits are given for each phase. If the endpoints can be read, any other limits that
are not all positive are refused as a wrong value, and all that is not refused resolves. The same goes for the settings
of an environment: a text that is no number is refused as it is read, and the only texts to escape are those that spell
what amounts to nothing. -/
theorem timeouts_are_positive_where_checked (room : Room) {settings : Settings}
    (hnumeric : settings.timeout.IsNumeric) (env : Environment) :
    (∀ r, settings.resolve room env = .ok r → r.endpoints ≠ [] ∧ r.timeouts = settings.timeout.meant ∧
      (r.timeouts.ArePositive ∨ settings.timeout.Escapes)) ∧
    (∀ endpoints, Endpoint.readAll room settings.endpoints = .ok endpoints →
      ((∃ r, settings.resolve room env = .ok r) ↔ settings.timeout.meant.ArePositive ∨ settings.timeout.Escapes) ∧
      (settings.AreRefused room env ↔ ¬settings.timeout.meant.ArePositive ∧ ¬settings.timeout.Escapes)) ∧
    (settings.timeout.Escapes → ¬settings.timeout.meant.ArePositive) ∧
    ∀ vars : Environment,
      let given := vars.get "ETCD_TIMEOUT"
      (given ≠ [] → Binary64.read? given = none → ∃ f, vars.settings = .error f ∧ f.kindName = "ValueError") ∧
      ∀ s, vars.settings = .ok s →
        (∀ r, s.resolve room env = .ok r → r.endpoints ≠ [] ∧
          (r.timeouts.ArePositive ∨ Binary64.SpellsNothing given)) ∧
        ∀ endpoints x, Endpoint.readAll room s.endpoints = .ok endpoints → Binary64.read? given = some x →
          ((∃ r, s.resolve room env = .ok r) ↔ (Scalar.real x).IsPositive ∨ Binary64.SpellsNothing given) ∧
          (s.AreRefused room env ↔ ¬(Scalar.real x).IsPositive ∧ ¬Binary64.SpellsNothing given) := by
  refine ⟨fun r hr => Settings.sound_of_resolve hnumeric hr,
    fun endpoints hread => Settings.resolve_cases hnumeric env hread, fun hescapes => hescapes.not_arePositive, ?_⟩
  intro vars given
  refine ⟨?_, ?_⟩
  · intro hgiven hread
    rcases vars.settings_cases with ⟨hempty, -⟩ | ⟨x, -, hsome, -⟩ | ⟨-, -, hfailed⟩
    · exact absurd hempty hgiven
    · rw [hread] at hsome
      cases hsome
    · exact ⟨_, hfailed, rfl⟩
  · intro s hs
    obtain ⟨hnumber, hescapes, hseconds⟩ := Environment.timeout_of_settings hs
    refine ⟨?_, ?_⟩
    · intro r hr
      obtain ⟨hsome, -, hlimits⟩ := Settings.sound_of_resolve hnumber hr
      exact ⟨hsome, hlimits.imp_right hescapes.1⟩
    · intro endpoints x hread hx
      have hcases := Settings.resolve_cases hnumber env hread
      -- the number from the environment is meant for all phases alike
      have hmeant : s.timeout.meant.ArePositive ↔ (Scalar.real x).IsPositive := by
        rw [hseconds x hx]
        exact Timeouts.arePositive_uniform_iff
      rwa [hmeant, hescapes] at hcases

/-- A number of seconds without a fraction, beyond all that a machine counts, is what a client is left with in every
phase; a text that spells a negative number at length is refused. -/
theorem timeouts_are_positive_where_checked_at_length :
    let settings : Settings := { Settings.standard with timeout := .seconds (.whole (10 ^ 30)) }
    let vars : Environment := [("ETCD_ENDPOINTS", " , http://etcd1:2379"), ("ETCD_TIMEOUT", " -1_0.5e\u0663\n")]
    settings.timeout.IsNumeric ∧
      (∃ r, settings.resolve .usual [] = .ok r ∧ r.endpoints ≠ [] ∧ r.timeouts = .uniform (.whole (10 ^ 30)) ∧
        r.timeouts.ArePositive) ∧
      ∃ s, vars.settings = .ok s ∧ s.AreRefused .usual [] := by
  intro settings vars
  have hnumeric : settings.timeout.IsNumeric := trivial
  have hpositive : settings.timeout.meant.ArePositive :=
    Timeouts.arePositive_uniform_iff.2 (Scalar.isPositive_iff.2 ⟨by decide, Option.some_ne_none _⟩)
  have hendpoints : Endpoint.readAll .usual settings.endpoints = .ok [⟨Endpoint.standard⟩] := by rfl
  obtain ⟨hsound, hcases, -, hvars⟩ := timeouts_are_positive_where_checked .usual hnumeric []
  obtain ⟨r, hr⟩ := (hcases _ hendpoints).1.2 (.inl hpositive)
  obtain ⟨hsome, hmeant, -⟩ := hsound r hr
  refine ⟨hnumeric, ⟨r, hr, hsome, hmeant, hmeant ▸ hpositive⟩, ?_⟩
  -- what the text spells is read as a number that amounts to something
  have hread : Binary64.read? (vars.get "ETCD_TIMEOUT") = some (Binary64.ofInt (-10500)) := by decide +kernel
  have hspelled : ¬Binary64.SpellsNothing (vars.get "ETCD_TIMEOUT") := by
    rw [← Binary64.exists_read?_iff_spellsNothing, hread]
    rintro ⟨x, hx, hnothing⟩
    obtain rfl := Option.some.inj hx
    exact absurd hnothing (Binary64.amount?_ofRatio _ _ _)
  have hnegative : ¬(Scalar.real (Binary64.ofInt (-10500))).IsPositive :=
    Scalar.not_isPositive_of_isNonPositive (by decide +kernel)
  obtain ⟨s, hs⟩ : ∃ s, vars.settings = .ok s := ⟨_, rfl⟩
  have hlisted : Endpoint.readAll .usual s.endpoints = .ok [⟨"http://etcd1:2379"⟩] := by
    obtain rfl := Except.ok.inj hs
    rfl
  exact ⟨s, hs, (((hvars vars).2 s hs).2 _ _ hlisted hread).2.2 ⟨hnegative, hspelled⟩⟩

/-- One number of seconds that amounts to nothing, no time to connect among limits for each phase, and a text that
spells such a number: all of them resolve, and leave a client with a limit that is not greater than zero. -/
theorem timeouts_that_are_not_positive :
    let nothing : Settings := { Settings.standard with timeout := .seconds (.real .nan) }
    let phase : Settings := { Settings.standard with timeout := .each ⟨.whole 0, .whole 1, .whole 1⟩ }
    let vars : Environment := [("ETCD_TIMEOUT", "nan")]
    (∃ r, nothing.resolve .usual [] = .ok r ∧ r.timeouts = .uniform (.real .nan) ∧ ¬r.timeouts.ArePositive) ∧
      (∃ r, phase.resolve .usual [] = .ok r ∧ r.timeouts.connect = .whole 0 ∧ ¬r.timeouts.ArePositive) ∧
      ∃ s r, vars.settings = .ok s ∧ s.resolve .usual [] = .ok r ∧ ¬r.timeouts.ArePositive := by
  intro nothing phase vars
  have hnan : ¬(Timeouts.uniform (.real .nan)).ArePositive := by
    rw [Timeouts.arePositive_uniform_iff, Scalar.isPositive_iff, Scalar.amount?_real]
    exact fun h => h.2 (Binary64.amount?_eq_none_iff.2 (by decide))
  have hzero : ¬(⟨.whole 0, .whole 1, .whole 1⟩ : Timeouts).ArePositive := fun h =>
    Scalar.not_isPositive_of_isNonPositive (by decide) (Timeouts.arePositive_iff.1 h).1
  exact ⟨⟨_, rfl, rfl, hnan⟩, ⟨_, rfl, rfl, hzero⟩, _, _, rfl, rfl, hnan⟩

end ClusterClient
