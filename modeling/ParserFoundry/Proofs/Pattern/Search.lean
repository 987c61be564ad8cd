import ParserFoundry.Pattern.Search
/-!
# Searching from the Start

A program that first looks for the start of the input starts threads there and nowhere else: at
every later place the look fails, and no thread comes about. Whatever it matches stands at the
front of the input.

Main results:
- `Program.LooksForStart`: programs whose first instruction looks for the start.
- `Program.start_eq_zero_of_find?`: their matches start at the start.
-/

namespace ParserFoundry.Pattern

/-- All threads started at the start of the input. -/
def Threads.FromStart (threads : Threads) : Prop :=
  ∀ thread ∈ threads.reversed, thread.start = 0

/-- Without threads there is nothing to start elsewhere. -/
theorem Threads.fromStart_none : Threads.FromStart {} := by
  intro thread hthread
  cases hthread

namespace Program

/-- The program first looks for the start of the input. -/
def LooksForStart (program : Program) : Prop :=
  ∃ next, program.code[program.entry]? = some (.look .start next)

/-- The first part of a sequence is where its program is entered. -/
theorem looksForStart_ofRegex (rest : List Regex) :
    (ofRegex (.concat (.look .start :: rest))).LooksForStart := by
  -- a sequence is compiled from its end, so the look is emitted last
  refine ⟨(compileConcat rest 0 #[.accept]).1, ?_⟩
  simp [ofRegex, compile, compileConcat, emit]

variable {program : Program} {place : Place} {steps start position : Nat}

/-! ## Threads -/

/-- Following labels adds only threads that started at `start`. -/
theorem start_of_mem_follow {pending : List Nat} {threads : Threads} {thread : Thread}
    (h : thread ∈ (program.follow place start steps pending threads).reversed) :
    thread ∈ threads.reversed ∨ thread.start = start := by
  -- on the steps, each of which takes one label from those that are pending
  induction steps generalizing pending threads with
  | zero =>
    rw [follow] at h
    exact .inl h
  | succ steps ih =>
    cases pending with
    | nil => exact .inl h
    | cons label pending =>
      rw [follow] at h
      split at h
      · exact ih h
      · -- the label is new: what comes next depends on its instruction
        have hother {pending : List Nat} (hmem : thread ∈ (program.follow place start steps pending
            { threads with visited := label :: threads.visited }).reversed) :
            thread ∈ threads.reversed ∨ thread.start = start := by
          exact (ih hmem :)
        dsimp only at h
        split at h
        · exact hother h
        · split at h
          · exact hother h
          · exact hother h
        · -- the label takes a character or accepts, so a thread stops here
          rcases ih h with hmem | hstart
          · rcases List.mem_cons.mp hmem with rfl | hmem
            · exact .inr rfl
            · exact .inl hmem
          · exact .inr hstart
        · exact hother h

/-- Without labels to follow, no thread is added. -/
theorem follow_nil (threads : Threads) : program.follow place start steps [] threads = threads := by
  cases steps with
  | zero => rfl
  | succ steps => rfl

/-- Behind a character, a program that looks for the start adds no thread. -/
theorem reversed_seed (hlooks : program.LooksForStart) {reach : Nat} {best? : Option (Nat × Nat)}
    {c : Char} {after? : Option Char} {threads : Threads} :
    (program.seed reach best? ⟨some c, after?⟩ position threads).reversed = threads.reversed := by
  -- the only label to follow is that of the look, which fails behind a character
  obtain ⟨next, hentry⟩ := hlooks
  unfold seed
  split
  · rfl
  · cases reach with
    | zero => rfl
    | succ reach =>
      rw [follow]
      split
      · rw [follow_nil]
      · simp [hentry, Look.holds, follow_nil]

/-- What has been matched so far started at the start of the input. -/
def BestFromStart (best? : Option (Nat × Nat)) : Prop :=
  ∀ found, best? = some found → found.1 = 0

/-- What has just been matched goes before what was matched earlier, and both started at the start.
-/
theorem BestFromStart.orElse {found? best? : Option (Nat × Nat)} (hfound : BestFromStart found?)
    (hbest : BestFromStart best?) : BestFromStart (found? <|> best?) := by
  cases found? with
  | none => exact hbest
  | some _ => exact hfound

/-- The threads that take a character go on from the same starts, and so does a match. -/
theorem fromStart_advance {reach : Nat} {c? : Option Char} {ready : List Thread}
    {ahead after : Threads} {found? : Option (Nat × Nat)}
    (hready : ∀ thread ∈ ready, thread.start = 0) (hahead : ahead.FromStart)
    (h : program.advance reach place c? position ready ahead = (after, found?)) :
    after.FromStart ∧ BestFromStart found? := by
  -- the threads are taken in order of priority; a match ends the round
  induction ready generalizing ahead with
  | nil =>
    cases h
    exact ⟨hahead, nofun⟩
  | cons thread rest ih =>
    obtain ⟨hthread, hrest⟩ := List.forall_mem_cons.mp hready
    rw [advance] at h
    split at h
    · cases h
      refine ⟨hahead, ?_⟩
      rintro found ⟨⟩
      exact hthread
    · split at h
      · refine ih hrest (fun other hother => ?_) h
        rcases start_of_mem_follow hother with hmem | hstart
        · exact hahead other hmem
        · rw [hstart, hthread]
      · exact ih hrest hahead h
    · exact ih hrest hahead h

/-! ## Runs -/

/-- Only at the start of the input do threads come about, and they all start there. -/
theorem fromStart_seed (hlooks : program.LooksForStart) {reach : Nat} {best? : Option (Nat × Nat)}
    {threads : Threads} (hplace : place.before? = none → position = 0)
    (hthreads : threads.FromStart) :
    (program.seed reach best? place position threads).FromStart := by
  intro thread hthread
  obtain ⟨before?, after?⟩ := place
  cases before? with
  | some c =>
    rw [reversed_seed hlooks] at hthread
    exact hthreads thread hthread
  | none =>
    obtain rfl := hplace rfl
    unfold seed at hthread
    split at hthread
    · exact hthreads thread hthread
    · rcases start_of_mem_follow hthread with hmem | hstart
      · exact hthreads thread hmem
      · exact hstart

/-- One place of a run: the threads that are ready there, and what they come to. -/
theorem fromStart_place (hlooks : program.LooksForStart) {reach : Nat} {best? : Option (Nat × Nat)}
    {ahead : Place} {c? : Option Char} {threads : Threads} {after : Threads}
    {found? : Option (Nat × Nat)} (hbest : BestFromStart best?) (hthreads : threads.FromStart)
    (hplace : place.before? = none → position = 0)
    (h : program.advance reach ahead c? position
      (program.seed reach best? place position threads).reversed.reverse {} = (after, found?)) :
    after.FromStart ∧ BestFromStart (found? <|> best?) := by
  have hready : ∀ thread ∈ (program.seed reach best? place position threads).reversed.reverse,
      thread.start = 0 := by
    intro thread hthread
    exact fromStart_seed hlooks hplace hthreads thread (List.mem_reverse.mp hthread)
  obtain ⟨hafter, hfound⟩ := fromStart_advance hready Threads.fromStart_none h
  exact ⟨hafter, hfound.orElse hbest⟩

/-- All that a run matches starts at the start. -/
theorem fromStart_run (hlooks : program.LooksForStart) {reach : Nat} {best? : Option (Nat × Nat)}
    {before? : Option Char} {threads : Threads} {input : List Char} (hbest : BestFromStart best?)
    (hthreads : threads.FromStart) (hplace : before? = none → position = 0) :
    BestFromStart (program.run reach best? position before? threads input) := by
  induction input generalizing best? position before? threads with
  | nil =>
    -- behind the last character there is one more place
    rw [run]
    split
    rename_i after found? h
    exact (fromStart_place hlooks hbest hthreads hplace h).2
  | cons c rest ih =>
    rw [run]
    split
    rename_i after found? h
    obtain ⟨hafter, hfound⟩ := fromStart_place hlooks hbest hthreads hplace h
    dsimp only
    split
    · exact hfound
    · -- the next place lies behind a character
      exact ih hfound hafter nofun

/-- A program that looks for the start matches nowhere else. -/
theorem start_eq_zero_of_find? (hlooks : program.LooksForStart) {input : List Char}
    {found : Nat × Nat} (h : program.find? input = some found) : found.1 = 0 := by
  have hnone : BestFromStart none := nofun
  exact fromStart_run hlooks hnone Threads.fromStart_none (fun _ => rfl) found h

end Program

end ParserFoundry.Pattern
