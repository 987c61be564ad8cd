import ParserFoundry.Proofs.Checked
import ParserFoundry.Proofs.Parser.Safety
import ParserFoundry.Proofs.Pattern.Search
/-!
# Anchored Patterns

A pattern is put into a group behind the look for the start, and what is made of it matches only
there, unless the pattern closes that group itself: a bar behind such a parenthesis starts a branch
that nothing guards. Whether this happens shows in the tree, which is an alternation then, and else
a sequence that starts with the look.

Main results:
- `Reader.Progress.Anchored`: the invariant of reading an anchored pattern.
- `Reader.Progress.Anchored.step`, `Reader.Progress.Anchored.run`: constructs and runs keep it.
- `Expr.read_anchored`: the two forms that the tree can have.
- `Matcher.findsPrefixes_of_ofRecognizer`: recognizers match at the front of the input only.
-/

namespace ParserFoundry

namespace Pattern

/-! ## Forms of a tree -/

namespace Expr

/-- A sequence whose first part looks for the start of the input. -/
def StartsAtStart (expr : Expr) : Prop :=
  ∃ span guard parts, expr = .concat span (.assertion guard .startText :: parts)

/-- A choice between branches. -/
def IsAlternation (expr : Expr) : Prop :=
  ∃ span branches, expr = .alternation span branches

end Expr

namespace Reader

/-! ## The outermost sequence -/

/-- A sequence, last part first, whose first part looks for the start of the input. -/
def Guarded (reversed : List Expr) : Prop :=
  ∃ before span, reversed = before ++ [.assertion span .startText]

/-- A part behind the others leaves the first one as it is. -/
theorem Guarded.cons {before : List Expr} (h : Guarded before) (part : Expr) :
    Guarded (part :: before) := by
  obtain ⟨front, span, rfl⟩ := h
  exact ⟨part :: front, span, rfl⟩

/-- The outermost frame: a group holds a guarded sequence back, and branches hold back anything. -/
def Frame.Guarded : Frame → Prop
  | .group _ outer .. => Reader.Guarded outer
  | .branches .. => True

namespace Progress

/-- The outermost sequence is guarded, unless it is over and its branches are being read. While no
group is open, it has a part behind the guard. -/
def Anchored (progress : Progress) : Prop :=
  match progress.frames.getLast? with
  | none => ∃ part before, progress.parts = part :: before ∧ Reader.Guarded before
  | some frame => frame.Guarded

variable {progress next before : Progress} {c : Char}

/-- While no group is open, the outermost sequence is the one being read. -/
theorem anchored_of_frames_eq_nil (hframes : progress.frames = []) :
    progress.Anchored ↔ ∃ part before, progress.parts = part :: before ∧ Reader.Guarded before := by
  -- without frames the first case applies, and its condition is the right side
  simp [Anchored, hframes]

/-- Of the open frames only the outermost one counts. -/
theorem anchored_of_frames_eq_cons {frame : Frame} {frames : List Frame}
    (hframes : progress.frames = frame :: frames) :
    progress.Anchored ↔ (frames.getLast?.getD frame).Guarded := by
  simp [Anchored, hframes, List.getLast?_cons]

/-- What is open inside the outermost frame does not matter. -/
theorem anchored_of_frames_eq_cons_cons {frame inner : Frame} {frames : List Frame}
    (hframes : progress.frames = inner :: frame :: frames) :
    progress.Anchored ↔ (frames.getLast?.getD frame).Guarded := by
  simp [Anchored, hframes, List.getLast?_cons]

/-! ## Steps -/

/-- A part is added behind the others, or inside the group that is open. -/
theorem Anchored.push (h : progress.Anchored) (part : Expr) (scan : Scan) :
    (progress.push part scan).Anchored := by
  -- with a frame open, the parts belong to it and the frames stay as they are
  unfold Anchored at h ⊢
  cases hlast : progress.frames.getLast? with
  | none =>
    simp only [hlast] at h
    obtain ⟨first, before, hparts, hbefore⟩ := h
    simp only [Progress.push, hlast]
    exact ⟨part, progress.parts, rfl, hparts ▸ hbefore.cons first⟩
  | some frame => simpa only [Progress.push, hlast] using h

/-- A repetition takes the place of its operand. -/
theorem Anchored.pushRepetition {sub : Expr} {min : Nat} {max? : Option Nat} {greedy : Bool}
    {scan : Scan} (h : progress.Anchored) (hoperand : progress.operand = .ok (sub, before)) :
    (before.pushRepetition sub min max? greedy scan).Anchored := by
  -- the operand is the last part, so the parts in front of it stay as they are
  unfold operand at hoperand
  split at hoperand
  · cases hoperand
  rename_i part parts hparts
  split at hoperand
  · cases hoperand
  cases hoperand
  unfold Anchored at h ⊢
  cases hlast : progress.frames.getLast? with
  | none =>
    simp only [hlast, hparts] at h
    obtain ⟨_, _, heq, hguarded⟩ := h
    cases heq
    simp only [Progress.pushRepetition, Progress.push, hlast]
    exact ⟨_, parts, rfl, hguarded⟩
  | some frame => simpa only [Progress.pushRepetition, Progress.push, hlast] using h

/-- A star, a plus or a question mark takes its operand back and puts the repetition there. -/
theorem Anchored.repeatUncounted {min : Nat} {max? : Option Nat} (h : progress.Anchored)
    (hstep : progress.repeatUncounted min max? = .ok next) : next.Anchored := by
  unfold Progress.repeatUncounted at hstep
  -- the repetition is lazy or greedy, which the tree does not show
  obtain ⟨⟨sub, before⟩, hoperand, hstep⟩ := bind_eq_ok_iff.mp hstep
  dsimp only at hstep
  split at hstep
  · cases hstep
    exact h.pushRepetition hoperand
  · cases hstep
    exact h.pushRepetition hoperand

/-- So do counts in braces, whatever numbers they give. -/
theorem Anchored.repeatCounted (h : progress.Anchored)
    (hstep : progress.repeatCounted = .ok next) : next.Anchored := by
  unfold Progress.repeatCounted at hstep
  obtain ⟨⟨sub, before⟩, hoperand, hstep⟩ := bind_eq_ok_iff.mp hstep
  obtain ⟨⟨⟨min, max?⟩, scan⟩, -, hstep⟩ := bind_eq_ok_iff.mp hstep
  dsimp only at hstep
  split at hstep
  · cases hstep
  · cases hstep
    exact h.pushRepetition hoperand

/-- The frame of a group that is opened in the outermost sequence holds that sequence back. -/
theorem Anchored.pushGroup (h : progress.Anchored) (hstep : progress.pushGroup = .ok next) :
    next.Anchored := by
  unfold Progress.pushGroup at hstep
  obtain ⟨⟨start, after⟩, -, hstep⟩ := bind_eq_ok_iff.mp hstep
  cases start with
  | flags span items =>
    cases hstep
    exact h.push _ _
  | group captures items =>
    cases hstep
    -- in the outermost sequence, the new frame is the outermost one; else it lies on top
    cases hframes : progress.frames with
    | nil =>
      obtain ⟨part, before, hparts, hguarded⟩ := (anchored_of_frames_eq_nil hframes).mp h
      exact (anchored_of_frames_eq_cons rfl).mpr (hparts ▸ hguarded.cons part)
    | cons frame frames =>
      exact (anchored_of_frames_eq_cons_cons rfl).mpr ((anchored_of_frames_eq_cons hframes).mp h)

/-- A bar outside every group puts branches around the guarded sequence. -/
theorem Anchored.pushBranch (h : progress.Anchored) : progress.pushBranch.Anchored := by
  unfold Progress.pushBranch
  cases hframes : progress.frames with
  | nil => simp [Anchored, Frame.Guarded]
  | cons frame frames =>
    have hlast := (anchored_of_frames_eq_cons hframes).mp h
    cases frame with
    | group outerStart outer openSpan captures items verbose =>
      exact (anchored_of_frames_eq_cons_cons rfl).mpr hlast
    | branches start reversed =>
      -- the branch joins the others, and what lies below them stays as it is
      refine (anchored_of_frames_eq_cons rfl).mpr ?_
      cases hinner : frames.getLast? with
      | none => trivial
      | some frame => simpa [hinner] using hlast

/-- Without a frame below it, an alternation cannot be closed. -/
theorem Anchored.popGroup (h : progress.Anchored) (hstep : progress.popGroup = .ok next) :
    next.Anchored := by
  -- the group that is closed lies below the branches, if any, and above the rest
  have hclose {outerStart : Position} {outer : List Expr} {openSpan : Span} {captures : Bool}
      {items : List (FlagItem × Span)} {verbose : Bool} {frames : List Frame} {body : Expr}
      (hlast : (frames.getLast?.getD
        (.group outerStart outer openSpan captures items verbose)).Guarded)
      (hframes : next.frames = frames) (hparts : next.parts = body :: outer) :
      next.Anchored := by
    cases frames with
    | nil => exact (anchored_of_frames_eq_nil hframes).mpr ⟨body, outer, hparts, hlast⟩
    | cons frame frames =>
      rw [List.getLast?_cons] at hlast
      exact (anchored_of_frames_eq_cons hframes).mpr hlast
  unfold Progress.popGroup joinBranches at hstep
  split at hstep
  case h_2 => cases hstep
  rename_i body outerStart outer openSpan captures items verbose frames heq
  cases hstep
  split at heq
  · rename_i start reversed inner hframes
    cases heq
    exact hclose ((anchored_of_frames_eq_cons_cons hframes).mp h) rfl rfl
  · obtain ⟨rfl, hframes⟩ := Prod.mk.inj heq
    exact hclose ((anchored_of_frames_eq_cons hframes).mp h) rfl rfl

/-- Every construct keeps the outermost sequence guarded. -/
theorem Anchored.step (h : progress.Anchored) (hstep : progress.step c = .ok next) :
    next.Anchored := by
  -- each construct pushes a part, repeats the last one, or changes the frames
  unfold Progress.step at hstep
  split_ifs at hstep
  -- the constructs in the order of the reader: groups, branches, classes, repetitions, single items
  · exact h.pushGroup hstep
  · exact h.popGroup hstep
  · cases hstep
    exact h.pushBranch
  · obtain ⟨⟨class_, scan⟩, -, hstep⟩ := bind_eq_ok_iff.mp hstep
    cases hstep
    exact h.push _ _
  · exact h.repeatUncounted hstep
  · exact h.repeatUncounted hstep
  · exact h.repeatUncounted hstep
  · exact h.repeatCounted hstep
  · obtain ⟨⟨primitive, scan⟩, -, hstep⟩ := bind_eq_ok_iff.mp hstep
    cases hstep
    exact h.push _ _

/-! ## Runs -/

/-- The parts are held last one first, so the look stands in front once they are turned round. -/
theorem startsAtStart_of_guarded {span : Span} {part : Expr} {before : List Expr}
    (h : Reader.Guarded before) : (Expr.sequence span (part :: before).reverse).StartsAtStart := by
  obtain ⟨front, guard, rfl⟩ := h
  refine ⟨span, guard, front.reverse ++ [part], ?_⟩
  simp only [List.reverse_cons, List.reverse_append, List.reverse_nil, List.nil_append,
    List.cons_append]
  cases front.reverse with
  | nil => rfl
  | cons first rest => rfl

/-- At the end, the outermost sequence is the whole tree, or its last branch. -/
theorem Anchored.finish (h : progress.Anchored) {expr : Expr}
    (hfinish : progress.finish = .ok expr) : expr.StartsAtStart ∨ expr.IsAlternation := by
  unfold Progress.finish joinBranches at hfinish
  -- without frames the sequence is the tree; with branches on top, they are; an open group is a
  -- fault
  cases hframes : progress.frames with
  | nil =>
    obtain ⟨part, before, hparts, hguarded⟩ := (anchored_of_frames_eq_nil hframes).mp h
    simp only [hframes, sequence, hparts, Except.ok.injEq] at hfinish
    exact .inl (hfinish ▸ startsAtStart_of_guarded hguarded)
  | cons frame frames =>
    cases frame with
    | group outerStart outer openSpan captures items verbose => simp [hframes] at hfinish
    | branches start reversed =>
      simp only [hframes] at hfinish
      split at hfinish
      · rename_i whole heq
        cases heq
        cases hfinish
        exact .inr ⟨_, _, rfl⟩
      · cases hfinish
      · rename_i whole frames heq
        cases heq
        cases hfinish
        exact .inr ⟨_, _, rfl⟩

theorem Anchored.withScan (h : progress.Anchored) (scan : Scan) :
    { progress with scan := scan }.Anchored :=
  h

/-- Constructs keep the invariant, so it is there at the end of every run. -/
theorem Anchored.run (h : progress.Anchored) {steps : Nat} {expr : Expr}
    (hrun : run steps progress = .ok expr) : expr.StartsAtStart ∨ expr.IsAlternation := by
  -- on the steps of the run, each of which reads one construct
  induction steps generalizing progress with
  | zero => exact (h.withScan _).finish hrun
  | succ steps ih =>
    rw [Progress.run] at hrun
    dsimp only at hrun
    split at hrun
    · exact (h.withScan _).finish hrun
    · obtain ⟨next, hstep, hrun⟩ := bind_eq_ok_iff.mp hrun
      exact ih ((h.withScan _).step hstep) hrun

/-! ## The opening -/

/-- The look that a pattern is put behind. -/
def guard : Expr :=
  .assertion ⟨⟨1, 1⟩, ⟨1, 3⟩⟩ .startText

/-- Inside the group that a pattern is put into. -/
def opened (rest : List Char) : Progress where
  scan := { rest := rest, position := ⟨1, 6⟩ }
  frames := [.group {} [guard] ⟨⟨1, 3⟩, ⟨1, 4⟩⟩ false [] false]
  start := ⟨1, 6⟩

/-- In the group, the frame of the group holds the look back. -/
theorem anchored_opened (rest : List Char) : (opened rest).Anchored := by
  exact ⟨[], _, rfl⟩

/-- The look for the start is read as one escape. -/
theorem readEscape_startText (rest : List Char) :
    readEscape { rest := '\\' :: 'A' :: rest } =
      .ok (.assertion ⟨⟨1, 1⟩, ⟨1, 3⟩⟩ .startText, { rest := rest, position := ⟨1, 3⟩ }) := by
  have hmeta : isMeta 'A' = false := by simp [isMeta]
  have hescapable : isEscapable 'A' = false := by decide
  simp [readEscape, Scan.bump, Scan.char?, shortEscape?, hmeta, hescapable, controlEscape?,
    assertionEscape?, Scan.since, Position.after, pure, Except.pure]

/-- Outside verbose mode, the next construct starts with the next character. -/
theorem run_succ {steps : Nat} {c : Char} (hverbose : progress.scan.verbose = false)
    (hchar : progress.scan.char? = some c) :
    run (steps + 1) progress = progress.step c >>= run steps := by
  have hskip : progress.scan.skip = progress.scan := by simp [Scan.skip, hverbose]
  simp only [run, hskip, hchar]

/-- Two constructs lead into the group: the look, and the opening of the group. -/
theorem run_opening (steps : Nat) (rest : List Char) :
    run (steps + 2) { scan := { rest := '\\' :: 'A' :: '(' :: '?' :: ':' :: rest } } =
      run steps (opened rest) := by
  have hguard : step { scan := { rest := '\\' :: 'A' :: '(' :: '?' :: ':' :: rest } } '\\' =
      .ok ⟨{ rest := '(' :: '?' :: ':' :: rest, position := ⟨1, 3⟩ }, [], {}, [guard]⟩ := by
    simp [step, readPrimitive, readEscape_startText, Progress.push, Primitive.toExpr, guard, bind,
      Except.bind, pure, Except.pure]
  -- nothing else is open, so the group holds back the look alone
  have hgroup : step ⟨{ rest := '(' :: '?' :: ':' :: rest, position := ⟨1, 3⟩ }, [], {}, [guard]⟩
      '(' = .ok (opened rest) := by
    rfl
  rw [run_succ rfl rfl, hguard]
  change run (steps + 1) ⟨{ rest := '(' :: '?' :: ':' :: rest, position := ⟨1, 3⟩ }, [], {},
    [guard]⟩ = _
  rw [run_succ rfl rfl, hgroup]
  rfl

end Progress

end Reader

/-- What has been read came from a run of the reader; the checks behind it change nothing. -/
theorem run_of_read {source : String} {expr : Expr} (h : Expr.read source = .ok expr) :
    Reader.Progress.run source.toList.length { scan := { rest := source.toList } } = .ok expr := by
  unfold Expr.read at h
  obtain ⟨whole, hrun, h⟩ := bind_eq_ok_iff.mp h
  -- the tree is the one of the run; what follows only checks it
  obtain ⟨-, -, h⟩ := bind_eq_ok_iff.mp h
  cases h
  exact hrun

/-- What is read of an anchored pattern is read of its text inside the group. -/
theorem run_of_read_anchored {source : String} {expr : Expr}
    (h : Expr.read (anchored source) = .ok expr) :
    Reader.Progress.run (source.toList.length + 4)
      (Reader.Progress.opened (source.toList ++ [')'])) = .ok expr := by
  have htext : (anchored source).toList =
      '\\' :: 'A' :: '(' :: '?' :: ':' :: (source.toList ++ [')']) := by
    simp [anchored]
  have hlength : (anchored source).toList.length = source.toList.length + 4 + 2 := by
    simp [htext]
  have hrun := run_of_read h
  rw [hlength, htext, Reader.Progress.run_opening] at hrun
  exact hrun

/-- The tree of an anchored pattern starts with the look for the start, or it is a choice that the
pattern's own parenthesis and bar have put around that look. -/
theorem Expr.read_anchored {source : String} {expr : Expr}
    (h : Expr.read (anchored source) = .ok expr) : expr.StartsAtStart ∨ expr.IsAlternation :=
  (Reader.Progress.anchored_opened _).run (run_of_read_anchored h)

/-! ## Programs -/

/-- A tree that starts with the look for the start has a program that does. -/
theorem Expr.StartsAtStart.looksForStart {expr : Expr} (h : expr.StartsAtStart)
    {flags after : Flags} {regex : Regex} (hlower : expr.lower flags = .ok (regex, after)) :
    (Program.ofRegex regex).LooksForStart := by
  obtain ⟨span, guard, parts, rfl⟩ := h
  -- the first part is lowered first, and gives the look of the regular expression
  rw [Expr.lower] at hlower
  obtain ⟨⟨regexes, last⟩, hparts, hlower⟩ := bind_eq_ok_iff.mp hlower
  cases hlower
  rw [lowerAll] at hparts
  obtain ⟨⟨first, next⟩, hfirst, hparts⟩ := bind_eq_ok_iff.mp hparts
  obtain ⟨⟨rest, end_⟩, -, hparts⟩ := bind_eq_ok_iff.mp hparts
  cases hparts
  rw [Expr.lower] at hfirst
  cases hfirst
  exact Program.looksForStart_ofRegex rest

/-- The tree of the anchored pattern is a choice: the pattern closes the group that it is put into,
and goes on with another branch. -/
def LeavesGroup (source : String) : Prop :=
  ∃ expr, Expr.read (anchored source) = .ok expr ∧ expr.IsAlternation

/-- A parenthesis of its own closes the group, and a bar follows. -/
example : LeavesGroup "a)|(?:b" :=
  ⟨_, by cbv, _, _, rfl⟩

/-- A program is anchored, unless its pattern closes the group that it is put into. -/
theorem looksForStart_ofPattern {source : String} {program : Program}
    (h : Program.ofPattern (anchored source) = .ok program) (hstays : ¬ LeavesGroup source) :
    program.LooksForStart := by
  -- read, lowered and compiled: the tree decides what the program starts with
  unfold Program.ofPattern at h
  obtain ⟨regex, hregex, h⟩ := bind_eq_ok_iff.mp h
  cases h
  unfold Regex.ofPattern at hregex
  split at hregex
  · cases hregex
  rename_i regex' hread
  split at hregex
  · cases hregex
  cases hregex
  unfold Regex.read at hread
  obtain ⟨expr, hexpr, hread⟩ := bind_eq_ok_iff.mp hread
  obtain ⟨⟨_, flags⟩, hlower, hread⟩ := bind_eq_ok_iff.mp hread
  cases hread
  -- the tree is a sequence behind the look, since it is no choice
  rcases Expr.read_anchored hexpr with hstart | halternation
  · exact hstart.looksForStart hlower
  · exact absurd ⟨expr, hexpr, halternation⟩ hstays

end Pattern

namespace Matcher

open Pattern

/-- What a program finds that looks for the start stands at the front of the input. -/
theorem findsPrefixes_pattern {source : String} {program : Program}
    (hlooks : program.LooksForStart) : (pattern source program).FindsPrefixes := by
  intro text lexeme h
  simp only [recognize?, Option.map_eq_some_iff, Prod.exists] at h
  obtain ⟨start, stop, hfind, rfl⟩ := h
  obtain rfl : start = 0 := Program.start_eq_zero_of_find? hlooks hfind
  exact List.take_prefix _ _

/-- Recognizers match at the front of the input only, unless a pattern leaves its group. -/
theorem findsPrefixes_of_ofRecognizer {terminal : String} {recognizer : Recognizer}
    {matcher : Matcher} (h : ofRecognizer terminal recognizer = .ok matcher)
    (hstays : ∀ source, recognizer = .pattern source → ¬ LeavesGroup source) :
    matcher.FindsPrefixes := by
  -- literals and the end of the input are anchored by their definition
  cases recognizer with
  | literal text =>
    simp only [ofRecognizer] at h
    split at h
    · cases h
    · cases h
      exact findsPrefixes_literal text
  | pattern source =>
    simp only [ofRecognizer] at h
    split at h
    · rename_i program hprogram
      cases h
      exact findsPrefixes_pattern (looksForStart_ofPattern hprogram (hstays source rfl))
    · cases h
  | endOfInput =>
    cases h
    exact findsPrefixes_endOfInput

end Matcher

end ParserFoundry
