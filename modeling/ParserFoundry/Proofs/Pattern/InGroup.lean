import ParserFoundry.Proofs.Pattern.Anchoring
import ParserFoundry.Proofs.Pattern.Classes
import ParserFoundry.Proofs.Pattern.Groups
/-!
# Patterns in a Group

A pattern that can be read on its own does not leave the group that it is put into. It is read on
its own and in the group, in step: above the group, the same frames are open, so a parenthesis of
the pattern closes a group of the pattern, and only the one behind the pattern closes the group
around it. What is accepted of such a pattern is anchored at the front of the input.

Main results:
- `Reader.Progress.InGroup`: the invariant of reading a pattern on its own and in the group.
- `Reader.Progress.InGroup.step`, `Reader.Progress.InGroup.run`: constructs and runs keep it.
- `Matcher.findsPrefixes_of_ofPattern`: valid patterns match at the front of the input only.
-/

namespace ParserFoundry

namespace Pattern

namespace Reader

open Scan

/-! ## Frames -/

mutual

/-- The frames of a pattern on its own and in the group that it is put into, with no branches on
top. -/
inductive Nested : List Frame → List Frame → Prop where
  | opened (start : Position) {outer : List Expr} (openSpan : Span) (captures : Bool)
      (items : List (FlagItem × Span)) (verbose : Bool) :
      Guarded outer → Nested [] [.group start outer openSpan captures items verbose]
  | group (start start' : Position) {outer outer' : List Expr} (openSpan openSpan' : Span)
      (captures captures' : Bool) (items items' : List (FlagItem × Span)) (verbose : Bool)
      {frames frames' : List Frame} :
      List.Forall₂ SameUse outer outer' → Branched frames frames' →
      Nested (.group start outer openSpan captures items verbose :: frames)
        (.group start' outer' openSpan' captures' items' verbose :: frames')

/-- The frames of a pattern on its own and in the group, perhaps with branches on top. -/
inductive Branched : List Frame → List Frame → Prop where
  | plain {frames frames' : List Frame} : Nested frames frames' → Branched frames frames'
  | branches (start start' : Position) (reversed reversed' : List Expr)
      {frames frames' : List Frame} : Nested frames frames' →
      Branched (.branches start reversed :: frames) (.branches start' reversed' :: frames')

end

/-- The progress of reading a pattern on its own and in the group. -/
structure Progress.InGroup (left : Nat) (alone grouped : Progress) : Prop where
  scan : alone.scan.Alongside left grouped.scan
  frames : Branched alone.frames grouped.frames
  parts : List.Forall₂ SameUse alone.parts grouped.parts

namespace Progress.InGroup

variable {left : Nat} {alone grouped : Progress}

/-- A part is added in both readings, and can be repeated in both or in neither. -/
theorem push (h : InGroup left alone grouped) {part part' : Expr} (hpart : SameUse part part')
    {scan scan' : Scan} {left' : Nat} (hscan : scan.Alongside left' scan') :
    InGroup left' (alone.push part scan) (grouped.push part' scan') where
  scan := hscan
  frames := h.frames
  parts := .cons hpart h.parts

/-- A bar starts a branch above the frames that had none, or in the alternation on top of them. -/
theorem pushBranch (h : InGroup (left + 1) alone grouped) :
    InGroup left alone.pushBranch grouped.pushBranch := by
  obtain ⟨scan, frames, start, parts⟩ := alone
  obtain ⟨scan', frames', start', parts'⟩ := grouped
  obtain ⟨hscan, hframes, hparts⟩ := h
  dsimp only at hscan hframes hparts
  cases hframes with
  | plain hnested =>
    have hbranches := Branched.branches start start'
      [Progress.sequence ⟨scan, frames, start, parts⟩]
      [Progress.sequence ⟨scan', frames', start', parts'⟩] hnested
    cases hnested with
    | opened => exact ⟨hscan.bump_succ, hbranches, .nil⟩
    | group => exact ⟨hscan.bump_succ, hbranches, .nil⟩
  | branches outer outer' reversed reversed' hnested =>
    exact ⟨hscan.bump_succ, .branches _ _ _ _ hnested, .nil⟩

/-- The opening of a group puts a frame on both stacks, and sets verbose mode in both or in none. -/
theorem pushGroup (h : InGroup (left + 1) alone grouped) :
    Follows (InGroup left) alone.pushGroup grouped.pushGroup := by
  simp only [Progress.pushGroup, pure_eq_ok]
  refine (readGroupStart_follows h.scan).bind ?_
  rintro ⟨start, after⟩ ⟨start', after'⟩ ⟨hstart, hafter⟩
  -- the same flags decide on verbose mode
  have hmode {items items' : List (FlagItem × Span)} (hitems : SameFlags items items') :
      Alongside left
        { after with verbose := (flagState items .ignoreWhitespace).getD alone.scan.verbose }
        { after' with verbose := (flagState items' .ignoreWhitespace).getD grouped.scan.verbose } :=
    { hafter with verbose := by rw [flagState_eq hitems, h.scan.verbose] }
  cases hstart with
  | group captures captures' hitems =>
    refine .of_ok ⟨hmode hitems, .plain ?_, .nil⟩
    rw [h.scan.verbose]
    exact .group _ _ _ _ _ _ _ _ _ h.parts h.frames
  | flags span span' hitems =>
    apply Follows.of_ok
    refine h.push ?_ (hmode hitems)
    rfl

/-- A parenthesis that closes a group of the text alone closes its counterpart in the group. -/
theorem popGroup (h : InGroup (left + 1) alone grouped) :
    Follows (InGroup left) alone.popGroup grouped.popGroup := by
  -- taken apart, so that the cases on the frames are seen by both sides
  obtain ⟨scan, frames, start, parts⟩ := alone
  obtain ⟨scan', frames', start', parts'⟩ := grouped
  obtain ⟨hscan, hframes, hparts⟩ := h
  dsimp only at hscan hframes hparts
  have hclose {verbose : Bool} : Alongside left { scan.bump with verbose := verbose }
      { scan'.bump with verbose := verbose } :=
    { hscan.bump_succ with verbose := rfl }
  -- a parenthesis without a group of its own is refused in the text alone
  cases hframes with
  | plain hnested =>
    cases hnested with
    | opened => exact .of_error _ _
    | group _ _ _ _ _ _ _ _ _ houter hinner => exact .of_ok ⟨hclose, hinner, .cons rfl houter⟩
  | branches _ _ _ _ hnested =>
    cases hnested with
    | opened => exact .of_error _ _
    | group _ _ _ _ _ _ _ _ _ houter hinner => exact .of_ok ⟨hclose, hinner, .cons rfl houter⟩

/-! ## Repetitions -/

/-- The operand is there in both texts or in none. -/
theorem operand (h : InGroup left alone grouped) :
    Follows (fun found other => InGroup left found.2 other.2) alone.operand grouped.operand := by
  obtain ⟨scan, frames, start, parts⟩ := alone
  obtain ⟨scan', frames', start', parts'⟩ := grouped
  obtain ⟨hscan, hframes, hparts⟩ := h
  dsimp only at hscan hframes hparts
  cases hparts with
  | nil => exact .of_error _ _
  | cons hpart hparts =>
    simp only [Progress.operand]
    apply Follows.guard
    · rw [hpart]
      exact id
    · intro _
      exact .of_ok ⟨hscan, hframes, hparts⟩

/-- A repetition takes its operand back in both readings, and is no list of flags in either. -/
theorem pushRepetition (h : InGroup left alone grouped) {left' : Nat} {scan scan' : Scan}
    (hscan : scan.Alongside left' scan') (sub sub' : Expr) (min : Nat) (max? : Option Nat)
    (greedy : Bool) :
    InGroup left' (alone.pushRepetition sub min max? greedy scan)
      (grouped.pushRepetition sub' min max? greedy scan') := by
  refine h.push ?_ hscan
  rfl

/-- A star, a plus or a question mark, each perhaps with the mark that makes it lazy. -/
theorem repeatUncounted (h : InGroup (left + 1) alone grouped) (min : Nat) (max? : Option Nat) :
    Follows (InGroup left) (alone.repeatUncounted min max?) (grouped.repeatUncounted min max?) := by
  simp only [Progress.repeatUncounted, pure_eq_ok]
  refine h.operand.bind ?_
  rintro ⟨sub, before⟩ ⟨sub', before'⟩ hbefore
  have hbump := hbefore.scan.bump_succ
  apply Follows.ite (hbump.char?_eq_some_iff (by decide)).symm
  · intro _
    exact .of_ok (hbefore.pushRepetition hbump.bump _ _ _ _ _)
  · intro _
    exact .of_ok (hbefore.pushRepetition hbump _ _ _ _ _)

/-- Counts in braces: the same ones are read, so they are in order in both readings or in none. -/
theorem repeatCounted (h : InGroup (left + 1) alone grouped) :
    Follows (InGroup left) alone.repeatCounted grouped.repeatCounted := by
  simp only [Progress.repeatCounted, throw_eq_error, error_bind, pure_eq_ok]
  refine h.operand.bind ?_
  rintro ⟨sub, before⟩ ⟨sub', before'⟩ hbefore
  refine (readRange_follows hbefore.scan.next_succ).bind ?_
  rintro ⟨⟨min, max?⟩, scan⟩ ⟨_, scan'⟩ ⟨rfl, hscan⟩
  have hnext := hscan.next
  have hlazy : (scan'.next.char? == some '?') = (scan.next.char? == some '?') :=
    hnext.char?_beq (by decide)
  -- the mark that makes the repetition lazy is passed in both texts
  have hend : (if (scan.next.char? == some '?') = true then scan.next.bump else scan.next).Alongside
      left (if (scan.next.char? == some '?') = true then scan'.next.bump else scan'.next) := by
    split
    · exact hnext.bump
    · exact hnext
  simp only [hlazy]
  apply Follows.guard id
  intro _
  exact .of_ok (hbefore.pushRepetition hend _ _ _ _ _)

/-! ## Constructs -/

/-- Every construct of the text alone is read in the group, too. -/
theorem step (h : InGroup (left + 1) alone grouped) (c : Char) :
    Follows (InGroup left) (alone.step c) (grouped.step c) := by
  simp only [Progress.step, pure_eq_ok]
  -- the constructs in the order of the reader; the same character decides in both readings
  apply Follows.ite Iff.rfl
  · intro _
    exact h.pushGroup
  intro _
  apply Follows.ite Iff.rfl
  · intro _
    exact h.popGroup
  intro _
  apply Follows.ite Iff.rfl
  · intro _
    exact .of_ok h.pushBranch
  intro _
  apply Follows.ite Iff.rfl
  · intro _
    refine (readClass_follows h.scan).bind ?_
    rintro ⟨class_, scan⟩ ⟨class_', scan'⟩ ⟨hclass, hscan⟩
    exact .of_ok (h.push hclass hscan)
  intro _
  apply Follows.ite Iff.rfl
  · intro _
    exact h.repeatUncounted _ _
  intro _
  apply Follows.ite Iff.rfl
  · intro _
    exact h.repeatUncounted _ _
  intro _
  apply Follows.ite Iff.rfl
  · intro _
    exact h.repeatUncounted _ _
  intro _
  apply Follows.ite Iff.rfl
  · intro _
    exact h.repeatCounted
  intro _
  refine (readPrimitive_follows h.scan c).bind ?_
  rintro ⟨primitive, scan⟩ ⟨primitive', scan'⟩ ⟨halike, hscan⟩
  exact .of_ok (h.push halike.toExpr hscan)

/-! ## Runs -/

/-- Blanks and comments in front of a construct do not touch the frames and the parts. -/
theorem skip (h : InGroup left alone grouped) :
    InGroup left { alone with scan := alone.scan.skip }
      { grouped with scan := grouped.scan.skip } where
  scan := h.scan.skip
  frames := h.frames
  parts := h.parts

end Progress.InGroup

namespace Progress

/-- At the end of its text, a run is over. -/
theorem run_of_rest_eq_nil {progress : Progress} (h : progress.scan.rest = []) (steps : Nat) :
    run steps progress = { progress with scan := progress.scan.skip }.finish := by
  cases steps with
  | zero => rfl
  | succ steps =>
    have hle := length_skip_le progress.scan
    rw [h] at hle
    have hnone : progress.scan.skip.char? = none :=
      List.head?_eq_none_iff.mpr (List.length_eq_zero_iff.mp (Nat.le_zero.mp hle))
    simp only [run, hnone]

variable {left : Nat} {alone grouped : Progress}

/-- The group is open as long as its parenthesis has not been read. -/
theorem InGroup.finish_ne_ok (h : InGroup left alone grouped) (expr : Expr) :
    grouped.finish ≠ .ok expr := by
  -- with the group open, the frames end with it, and no tree is complete
  obtain ⟨scan, frames, start, parts⟩ := alone
  obtain ⟨scan', frames', start', parts'⟩ := grouped
  obtain ⟨hscan, hframes, hparts⟩ := h
  dsimp only at hframes
  intro hfinish
  cases hframes with
  | plain hnested => cases hnested <;> cases hfinish
  | branches _ _ _ _ hnested => cases hnested <;> cases hfinish

/-- Behind the group, nothing is left to read, and the tree is a sequence. -/
theorem startsAtStart_of_guarded_run {progress : Progress} (hnil : progress.scan.rest = [])
    (hframes : progress.frames = []) {body : Expr} {outer : List Expr}
    (hparts : progress.parts = body :: outer) (hguarded : Reader.Guarded outer) {steps : Nat}
    {expr : Expr} (hrun : run steps progress = .ok expr) : expr.StartsAtStart := by
  rw [run_of_rest_eq_nil hnil] at hrun
  simp only [finish, joinBranches, hframes, sequence, hparts, Except.ok.injEq] at hrun
  exact hrun ▸ startsAtStart_of_guarded hguarded

/-- Where the text alone is complete, the parenthesis closes the group that it was put into. -/
theorem InGroup.startsAtStart (h : InGroup left alone grouped) (hrest : grouped.scan.rest = [')'])
    {steps : Nat} {expr expr' : Expr} (halone : alone.finish = .ok expr)
    (hgrouped : grouped.step ')' >>= run steps = .ok expr') : expr'.StartsAtStart := by
  obtain ⟨scan, frames, start, parts⟩ := alone
  obtain ⟨scan', frames', start', parts'⟩ := grouped
  obtain ⟨hscan, hframes, hparts⟩ := h
  dsimp only at hscan hframes hparts hrest
  have hbump : scan'.bump.rest = [] := by simp [Scan.bump, hrest]
  obtain ⟨next, hstep, hrun⟩ := bind_eq_ok_iff.mp hgrouped
  cases hframes with
  -- the groups of the text are closed, as it is complete, so this one is the group around it
  | plain hnested =>
    cases hnested with
    | opened _ _ _ _ _ hguarded =>
      cases hstep
      exact startsAtStart_of_guarded_run hbump rfl rfl hguarded hrun
    | group => cases halone
  | branches _ _ _ _ hnested =>
    cases hnested with
    | opened _ _ _ _ _ hguarded =>
      cases hstep
      exact startsAtStart_of_guarded_run hbump rfl rfl hguarded hrun
    | group => cases halone

/-- The end of the text alone: the parenthesis comes next in the group, or it has been taken into a
comment. -/
theorem InGroup.run_end (h : InGroup left alone grouped) (hnil : alone.scan.skip.rest = [])
    {steps : Nat} {expr expr' : Expr}
    (halone : { alone with scan := alone.scan.skip }.finish = .ok expr)
    (hgrouped : Progress.run (steps + 1) grouped = .ok expr') : expr'.StartsAtStart := by
  rw [Progress.run] at hgrouped
  dsimp only at hgrouped
  -- with the parenthesis in a comment, the group stays open
  rcases h.skip.scan.rest with hrest | ⟨-, hrest⟩
  · rw [hnil, List.nil_append] at hrest
    have hc : grouped.scan.skip.char? = some ')' := by rw [char?, hrest]; rfl
    rw [hc] at hgrouped
    exact h.skip.startsAtStart hrest halone hgrouped
  · have hc : grouped.scan.skip.char? = none := by rw [char?, hrest]; rfl
    rw [hc] at hgrouped
    exact absurd hgrouped (h.skip.finish_ne_ok expr')

/-- A pattern that can be read on its own is a sequence in the group. -/
theorem InGroup.run (h : InGroup left alone grouped) {steps : Nat} {expr expr' : Expr}
    (hleft : left ≤ steps) {steps' : Nat} (hsteps : steps < steps')
    (halone : Progress.run steps alone = .ok expr)
    (hgrouped : Progress.run steps' grouped = .ok expr') : expr'.StartsAtStart := by
  -- the text alone has at most `left` characters left, so its steps suffice
  induction steps generalizing left steps' alone grouped with
  | zero =>
    obtain ⟨steps', rfl⟩ := Nat.exists_eq_succ_of_ne_zero (Nat.ne_of_gt hsteps)
    have hle := Nat.le_trans h.skip.scan.length_le hleft
    exact h.run_end (List.length_eq_zero_iff.mp (Nat.le_zero.mp hle)) halone hgrouped
  | succ steps ih =>
    obtain ⟨steps', rfl⟩ :=
      Nat.exists_eq_succ_of_ne_zero (Nat.ne_of_gt (Nat.zero_lt_of_lt hsteps))
    rw [Progress.run] at halone
    dsimp only at halone
    cases hc : alone.scan.skip.char? with
    | none =>
      rw [hc] at halone
      exact h.run_end (List.head?_eq_none_iff.mp hc) halone hgrouped
    | some c =>
      rw [hc] at halone
      rw [Progress.run] at hgrouped
      dsimp only at hgrouped
      rw [h.skip.scan.char?_eq hc] at hgrouped
      cases left with
      | zero =>
        have hnil := List.length_eq_zero_iff.mp (Nat.le_zero.mp h.skip.scan.length_le)
        dsimp only at hnil
        simp [char?, hnil] at hc
      | succ left =>
        obtain ⟨next, hnext, halone⟩ := bind_eq_ok_iff.mp halone
        obtain ⟨next', hnext', hgrouped⟩ := bind_eq_ok_iff.mp hgrouped
        -- the construct that is read in the group is the one that was read alone
        obtain ⟨other, hother, hinside⟩ := h.skip.step c next hnext
        obtain rfl : other = next' := Except.ok.inj (hother.symm.trans hnext')
        exact ih hinside (Nat.le_of_succ_le_succ hleft) (Nat.lt_of_succ_lt_succ hsteps) halone
          hgrouped

/-- At the start, nothing is open in the text alone, and the group alone is open around it. -/
theorem inGroup_opened (text : List Char) :
    InGroup text.length { scan := { rest := text } } (opened (text ++ [')'])) where
  scan := ⟨.inl rfl, rfl, rfl, Nat.le_refl _⟩
  frames := .plain (.opened _ _ _ _ _ ⟨[], _, rfl⟩)
  parts := .nil

end Progress

end Reader

/-- A pattern that can be read on its own stays in the group that it is put into. -/
theorem not_leavesGroup_of_read {source : String} {expr : Expr} (h : Expr.read source = .ok expr) :
    ¬ LeavesGroup source := by
  -- as a choice, the tree would have to be a sequence as well
  rintro ⟨whole, hwhole, span, branches, rfl⟩
  have hsteps : source.toList.length < source.toList.length + 4 :=
    Nat.lt_add_of_pos_right (by decide)
  obtain ⟨_, _, _, hsequence⟩ := (Reader.Progress.inGroup_opened source.toList).run
    (Nat.le_refl _) hsteps (run_of_read h) (run_of_read_anchored hwhole)
  cases hsequence

/-- A pattern that makes a regular expression has been read to the end. -/
theorem exists_read_of_ofPattern {source : String} {regex : Regex}
    (h : Regex.ofPattern source = .ok regex) : ∃ expr, Expr.read source = .ok expr := by
  unfold Regex.ofPattern at h
  split at h
  · cases h
  · rename_i hread
    obtain ⟨expr, hexpr, -⟩ := bind_eq_ok_iff.mp hread
    exact ⟨expr, hexpr⟩

end Pattern

/-- A pattern that is valid on its own is matched at the front of the input only. -/
theorem Matcher.findsPrefixes_of_ofPattern {terminal source : String} {regex : Pattern.Regex}
    {matcher : Matcher} (hvalid : Pattern.Regex.ofPattern source = .ok regex)
    (h : ofRecognizer terminal (.pattern source) = .ok matcher) : matcher.FindsPrefixes := by
  obtain ⟨expr, hexpr⟩ := Pattern.exists_read_of_ofPattern hvalid
  apply findsPrefixes_of_ofRecognizer h
  rintro _ ⟨⟩
  exact Pattern.not_leavesGroup_of_read hexpr

end ParserFoundry
