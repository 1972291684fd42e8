-- What a script answers to a row of calls.  The machine that sees one byte at a
-- time and the lexer give the same answers and stop at the same place, so a law
-- that is proved of the runs of the lexer is one of both.
import ImageScript.Proofs.ByteByByte

namespace ImageScript

/-! ## Runs in two parts -/

namespace Lexer

theorem pullAll_append (s : Lexer) (pulls more : List Pull) :
    s.pullAll (pulls ++ more) =
      ((s.pullAll pulls).1 ++ ((s.pullAll pulls).2.pullAll more).1,
        ((s.pullAll pulls).2.pullAll more).2) := by
  induction pulls generalizing s with
  | nil => rfl
  | cons pull pulls ih =>
    rw [List.cons_append, pullAll, pullAll]
    dsimp only
    rw [ih]
    rfl

/-- Every call has its answer. -/
theorem length_pullAll (s : Lexer) (pulls : List Pull) :
    (s.pullAll pulls).1.length = pulls.length := by
  induction pulls generalizing s with
  | nil => rfl
  | cons pull pulls ih => exact congrArg Nat.succ (ih (s.pull pull).2)

/-- Where a lexer stands after a run is a place of the script. -/
theorem standsIn_pullAll {source : String} {s : Lexer} (h : s.StandsIn source)
    (pulls : List Pull) : (s.pullAll pulls).2.StandsIn source := by
  induction pulls generalizing s with
  | nil => exact h
  | cons pull pulls ih => exact ih (standsIn_pull h pull)

/-- Only the stream can be over, so tokens can be asked for without end. -/
theorem finished_pullAll_tokens (s : Lexer) (k : Nat) :
    (s.pullAll (List.replicate k .token)).2.finished = s.finished := by
  induction k generalizing s with
  | zero => rfl
  | succ k ih =>
    rw [List.replicate_succ, pullAll]
    exact (ih s.read.2).trans s.finished_read

end Lexer

/-! ## Answers -/

/-- Asked for all of `pulls` from its start on, the script gives `answers`, and
`stop` is where it has then been read to.  The machine and the lexer agree. -/
structure Answers (source : String) (pulls : List Lexer.Pull) (answers : List (Option Outcome))
    (stop : Position) : Prop where
  machine : ∃ last, (Machine.ofString source).pullAll pulls = some (answers, last) ∧
    last.reader.position = stop
  lexer : ∃ last, (Lexer.ofString source).pullAll pulls = (answers, last) ∧ last.position = stop

/-- The lexer tells the answers. -/
theorem answers_pullAll (source : String) (pulls : List Lexer.Pull) :
    Answers source pulls ((Lexer.ofString source).pullAll pulls).1
      ((Lexer.ofString source).pullAll pulls).2.position := by
  obtain ⟨last, hall, mark, previous, hlast⟩ :=
    Machine.follows_pullAll (Lexer.standsIn_ofString source) (Machine.follows_ofString source) pulls
  refine ⟨⟨last, hall, ?_⟩, ⟨_, rfl, rfl⟩⟩
  rw [hlast]
  rfl

theorem answers_iff {source : String} {pulls : List Lexer.Pull} {answers : List (Option Outcome)}
    {stop : Position} :
    Answers source pulls answers stop ↔
      answers = ((Lexer.ofString source).pullAll pulls).1 ∧
        stop = ((Lexer.ofString source).pullAll pulls).2.position := by
  constructor
  · intro h
    obtain ⟨last, hall, rfl⟩ := h.lexer
    rw [hall]
    exact ⟨rfl, rfl⟩
  · rintro ⟨rfl, rfl⟩
    exact answers_pullAll source pulls

theorem Answers.length_eq {source : String} {pulls : List Lexer.Pull}
    {answers : List (Option Outcome)} {stop : Position} (h : Answers source pulls answers stop) :
    answers.length = pulls.length := by
  rw [(answers_iff.1 h).1, Lexer.length_pullAll]

/-- The script gives this outcome to some call of some row of calls. -/
def Answered (source : String) (outcome : Outcome) : Prop :=
  ∃ pulls answers stop, Answers source pulls answers stop ∧ some outcome ∈ answers

/-- What a script answers is read at some place of it. -/
theorem Answered.exists_read {source : String} {outcome : Outcome} (h : Answered source outcome) :
    ∃ s : Lexer, s.StandsIn source ∧ s.read.1 = outcome := by
  obtain ⟨pulls, answers, stop, hanswers, hmem⟩ := h
  rw [(answers_iff.1 hanswers).1] at hmem
  obtain ⟨s, hs, hread⟩ :=
    Lexer.exists_read_of_mem_pullAll (Lexer.standsIn_ofString source) hmem
  exact ⟨s, hs, hread.symm⟩

end ImageScript
