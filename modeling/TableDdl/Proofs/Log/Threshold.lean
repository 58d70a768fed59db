import TableDdl.Log.Level
import TableDdl.Proofs.Outcome

/-!
# Levels of logging

A level is set by its name. At the level with the name `DEBUG` an event of the level debug is
written, and at any other level that can be set none is (`isLoggedAtDebugAlone`). Without a logging
nothing is written. What a computation comes to is the same in all cases.
-/

namespace TableDdl

/-! ## The severity of a name -/

namespace Logging

variable {name : Text} {severity : Nat}

theorem severity_of_mem_named :
    ∀ level ∈ Level.named, Text.ofString level.1 ≠ Text.ofString "DEBUG" →
      Level.debug.severity < level.2 := by
  decide

/-- The least severity is that of debug exactly for the name of this level, in any letters. -/
theorem thresholdOf_debug (debug : Level.capitals name = Text.ofString "DEBUG") :
    thresholdOf name = .ok Level.debug.severity := by
  rw [thresholdOf, debug]
  rfl

theorem lt_of_thresholdOf (other : Level.capitals name ≠ Text.ofString "DEBUG")
    (set : thresholdOf name = .ok severity) : Level.debug.severity < severity := by
  rw [thresholdOf] at set
  split at set
  · cases set
  · split at set
    · rename_i found
      cases set
      have same := List.find?_some found
      have mem := List.mem_of_find?_eq_some found
      apply severity_of_mem_named _ mem
      intro debug
      exact other ((of_decide_eq_true same).symm.trans debug)
    · cases set
      decide

theorem ofNames_eq_ok_iff {level form : Text} {logging : Logging} :
    ofNames level form = .ok logging ↔
      thresholdOf level = .ok logging.threshold ∧ logging.form = formOf form := by
  rw [ofNames, Outcome.bind_eq_ok_iff]
  constructor
  · intro h
    obtain ⟨threshold, set, same⟩ := h
    cases same
    exact ⟨set, rfl⟩
  · intro h
    obtain ⟨set, same⟩ := h
    exact ⟨logging.threshold, set, by rw [← same]; rfl⟩

/-! ## What is written -/

variable {logging : Logging} {events : List Event}

theorem write_of_le (severe : ∀ event ∈ events, logging.threshold ≤ event.level.severity)
    (line : LogForm → Event → Text) :
    logging.write line events =
      events.flatMap fun event => line logging.form event ++ [.scalar '\n'] := by
  have kept : (events.filter fun event => logging.threshold ≤ event.level.severity) = events :=
    List.filter_eq_self.mpr fun event mem => decide_eq_true (severe event mem)
  rw [write, kept]

theorem write_of_lt (mild : ∀ event ∈ events, event.level.severity < logging.threshold)
    (line : LogForm → Event → Text) : logging.write line events = [] := by
  have dropped : (events.filter fun event => logging.threshold ≤ event.level.severity) = [] :=
    List.filter_eq_nil_iff.mpr fun event mem severe =>
      absurd (of_decide_eq_true severe) (Nat.not_le_of_lt (mild event mem))
  rw [write, dropped]
  rfl

end Logging

namespace Traced

variable {ε α : Type} {x : Traced ε α}

/-- What a computation gives under a logging, if there is one: the lines that are written, and the
outcome. -/
def under (logging : Option Logging) (line : LogForm → Event → Text) (x : Traced ε α) :
    Text × Except ε α :=
  ((logging.map (·.write line x.events)).getD [], x.outcome)

/-- All events are written at the level `DEBUG`, and none at another level or without a logging,
whatever the line of an event is; the outcome is the same. -/
structure IsLoggedAtDebugAlone (x : Traced ε α) : Prop where
  debug : ∀ level form logging line, Logging.ofNames level form = .ok logging →
    Level.capitals level = Text.ofString "DEBUG" →
      x.under (some logging) line =
        (x.events.flatMap fun event => line logging.form event ++ [.scalar '\n'], x.outcome)
  other : ∀ level form logging line, Logging.ofNames level form = .ok logging →
    Level.capitals level ≠ Text.ofString "DEBUG" → x.under (some logging) line = ([], x.outcome)
  unset : ∀ line, x.under none line = ([], x.outcome)

theorem isLoggedAtDebugAlone (debug : ∀ event ∈ x.events, event.level = Level.debug) :
    x.IsLoggedAtDebugAlone where
  debug level form logging line set isDebug := by
    obtain ⟨threshold, -⟩ := Logging.ofNames_eq_ok_iff.mp set
    rw [Logging.thresholdOf_debug isDebug] at threshold
    have least := Except.ok.inj threshold
    have severe : ∀ event ∈ x.events, logging.threshold ≤ event.level.severity := by
      intro event mem
      rw [debug event mem]
      exact Nat.le_of_eq least.symm
    exact congrArg (·, x.outcome) (Logging.write_of_le severe line)
  other level form logging line set isOther := by
    obtain ⟨threshold, -⟩ := Logging.ofNames_eq_ok_iff.mp set
    have above := Logging.lt_of_thresholdOf isOther threshold
    have mild : ∀ event ∈ x.events, event.level.severity < logging.threshold := by
      intro event mem
      rw [debug event mem]
      exact above
    exact congrArg (·, x.outcome) (Logging.write_of_lt mild line)
  unset _ := rfl

end Traced

end TableDdl
