/-
  The scan with remembered matches makes of a line what the plain scan makes of it.

  1. **The simple layer** — there is one list of matches of a rule, and `simpleSpans` paints it.

  2. **Places** — wherever the scan goes on there is a place between characters
     (`construct_closed`), so what it passes over are whole characters.

  3. **The plain scan** — it passes over characters inside a construct, and over those at which no
     construct begins (`scan_skip`); at one where a construct begins it does with the construct what
     the scan does (`scan_of_beginning`).

  4. **Side by side** — a hit is the construct that the plain scan finds, and a jump passes only
     over characters that the plain scan passes over one by one.  So both come to the same result
     from every place on (`scanFrom_eq_scan`); in particular the fuel suffices.  The induction is on
     what is left of the line, with the starters sound at every turn; the two recursions differ in
     their steps, one offset to the next hit or the next jump against one character, so the plain
     scan's steps in between are taken together first (`scan_skip`, `scan_of_jump`).

  5. **The line** — the layers agree, the simple one being determined by the rules, and so does what
     is hidden (`dropFrom_eq`, `exclusive_eq`).

  Main result: `highlights_iff_highlight`.
-/
import Highlight.Proofs.Scan.Starters

namespace Highlight

/-! ## Places

  Offsets count bytes, and characters may take several.  The plain scan goes from character to
  character, so one has to know that the offsets the scan jumps to lie between them. -/

namespace Text

/-- Two places of a line cut out what is between them. -/
theorem exists_between {before after : Text} {n : Nat} (h : (before ++ after).IsBoundary n)
    (hn : before.size ≤ n) : ∃ mid later, after = mid ++ later ∧ n = (before ++ mid).size := by
  obtain ⟨before', after', htext, rfl⟩ := h
  rcases List.append_eq_append_iff.mp htext with ⟨mid, rfl, rfl⟩ | ⟨mid, rfl, rfl⟩
  · exact ⟨mid, after', rfl, rfl⟩
  · have hmid : mid = [] := by
      rw [size_append] at hn
      exact eq_nil_of_size (by omega)
    exact ⟨[], after, rfl, by simp [hmid]⟩

/-- Behind a character there is the next place. -/
theorem nextBoundary_size (before : Text) (c : Char) (rest : Text) :
    nextBoundary (before ++ c :: rest) before.size = before.size + c.utf8Size := by
  have hfrom : ∀ (before : Text) (off : Nat),
      nextBoundaryFrom (off + before.size) off (before ++ c :: rest)
        = off + before.size + c.utf8Size := by
    intro before
    induction before with
    | nil =>
      intro off
      have hpos := Char.utf8Size_pos c
      show (if off + 0 < off + c.utf8Size then off + c.utf8Size else _) = _
      rw [if_pos (by omega), size_nil, Nat.add_zero]
    | cons d before ih =>
      intro off
      show (if off + size (d :: before) < off + d.utf8Size then off + d.utf8Size else _) = _
      rw [if_neg (by rw [size_cons]; omega), size_cons, ← Nat.add_assoc]
      exact ih _
  have hzero := hfrom before 0
  rw [Nat.zero_add] at hzero
  exact hzero

end Text

namespace Delimiters

variable {d : Delimiters} {text : Text} {pos stop : Nat} {escapes : List (Nat × Nat)}

/-- A delimiter that ends a construct does so where it ends itself. -/
theorem atDelimiter_finish {t : Nat × Nat}
    (h : atDelimiter text escapes t = .finish (some stop)) : t.2 = stop := by
  unfold atDelimiter at h
  split at h
  · exact absurd h (by simp)
  · exact Option.some.inj (EndStep.finish.inj h)

/-- The step that finds the end finds it at a place. -/
theorem isBoundary_of_endStep (h : d.endStep text pos escapes = .finish (some stop)) :
    text.IsBoundary stop := by
  unfold endStep at h
  split at h
  · exact absurd h (by simp)
  · exact absurd h (by simp)
  · rename_i t hfind _
    rw [← atDelimiter_finish h]
    exact (Pattern.isBoundary_of_findAt hfind).2
  · rename_i t e hfind _
    split at h
    · exact absurd h (by simp)
    · rw [← atDelimiter_finish h]
      exact (Pattern.isBoundary_of_findAt hfind).2

/-- So does the whole search, whatever the fuel. -/
theorem isBoundary_of_findEndFrom (fuel : Nat)
    (h : (d.findEndFrom text fuel pos escapes).stop = some stop) : text.IsBoundary stop := by
  induction fuel generalizing pos escapes with
  | zero => exact absurd h (by simp [findEndFrom])
  | succ fuel ih =>
    unfold findEndFrom at h
    split at h
    · rename_i stop' hstep
      obtain rfl : stop' = some stop := h
      exact isBoundary_of_endStep hstep
    · exact ih h

end Delimiters

/-- A construct ends at a place between characters. -/
theorem BlockRule.isBoundary_of_findEnd {r : BlockRule} {text : Text} {pos stop : Nat}
    (h : (r.findEnd text pos).stop = some stop) : text.IsBoundary stop := by
  unfold findEnd at h
  split at h
  · exact Delimiters.isBoundary_of_findEndFrom _ h
  · exact absurd h (by simp)

namespace Scan

open Plain (spansOf SimpleLayer enclosed toEnd scan beginning)

/-! ## The simple layer

  The rules' matches are painted rule by rule.  There is no choice in this layer, and nothing that
  would be remembered: only the empty matches go. -/

/-- A range is painted as a match is, that is, not at all if it is empty. -/
theorem spanOf_eq (start stop : Nat) (style : StyleId) :
    spanOf start stop style = spansOf style [(start, stop)] := by
  unfold spanOf spansOf
  by_cases h : start < stop
  · simp [h]
  · simp [h]

/-- Matches painted one by one are painted together. -/
theorem flatMap_spanOf (style : StyleId) (ms : List (Nat × Nat)) :
    (ms.flatMap fun (start, stop) => spanOf start stop style) = spansOf style ms := by
  induction ms with
  | nil => rfl
  | cons m ms ih =>
    obtain ⟨start, stop⟩ := m
    rw [List.flatMap_cons, ih]
    show spanOf start stop style ++ spansOf style ms = spansOf style ((start, stop) :: ms)
    rw [spanOf_eq]
    unfold spansOf
    rw [← List.map_append, ← List.filter_append, List.singleton_append]

/-- A construct is painted up to its end, and its escapes over it. -/
theorem blockSpans_eq (text : Text) (r : BlockRule) (start : Nat) (search : EndSearch) :
    blockSpans text r start search
      = spansOf r.style [(start, search.stop.getD text.size)]
        ++ spansOf .escape search.escapes := by
  rw [blockSpans, spanOf_eq, flatMap_spanOf]

/-- The spans of the rules are those of all their matches. -/
theorem simpleLayer_ruleSpans (text : Text) (rules : List Rule) :
    SimpleLayer text rules (rules.flatMap (ruleSpans text)) := by
  induction rules with
  | nil => exact .nil
  | cons r rules ih =>
    rw [List.flatMap_cons, ruleSpans, flatMap_spanOf, Rule.findAll]
    cases h : r.pattern with
    | none => exact .disabled h ih
    | some p => exact .enabled h (Pattern.successive_findAll p text) ih

/-- There is only one simple layer. -/
theorem SimpleLayer.unique {text : Text} {rules : List Rule} {spans spans' : List Span}
    (h : SimpleLayer text rules spans) (h' : SimpleLayer text rules spans') : spans = spans' := by
  induction h generalizing spans' with
  | nil =>
    cases h'
    rfl
  | disabled hnone _ ih =>
    cases h' with
    | disabled _ hrules => exact ih hrules
    | enabled hsome _ _ => exact absurd (hnone.symm.trans hsome) (by simp)
  | enabled hsome hms _ ih =>
    cases h' with
    | disabled hnone _ => exact absurd (hnone.symm.trans hsome) (by simp)
    | enabled hsome' hms' hrules =>
      obtain rfl := Option.some.inj (hsome.symm.trans hsome')
      rw [hms.unique hms', ih hrules]

/-- What is hidden are the spans that begin at the offset or behind it. -/
theorem dropFrom_eq (hides : Option Nat) (spans : List Span) :
    dropFrom hides spans = spans.filter fun s => hides.all (s.start < ·) := by
  cases hides with
  | none => exact (List.filter_eq_self.mpr fun _ _ => rfl).symm
  | some n => rfl

/-! ## Constructs

  `Outcome.finish` is what both scans do with a construct, and they differ in what they go on with
  behind it.  So it is enough that this agrees from the construct's end on (`finish_congr`). -/

/-- Finish what a construct leaves to do; `goOn` tells what comes behind it. -/
def Outcome.finish (goOn : Nat → Exclusive) : Outcome → Exclusive
  | .closed spans stop => ⟨spans ++ (goOn stop).spans, (goOn stop).exit, (goOn stop).hides⟩
  | .ended spans exit hides => ⟨spans, exit, hides⟩

/-- What follows a construct matters only if it is closed, and then only from its end on. -/
theorem finish_congr {goOn goOn' : Nat → Exclusive} {outcome : Outcome}
    (h : ∀ spans stop, outcome = .closed spans stop → goOn stop = goOn' stop) :
    outcome.finish goOn = outcome.finish goOn' := by
  cases outcome with
  | closed spans stop =>
    show (⟨spans ++ (goOn stop).spans, (goOn stop).exit, (goOn stop).hides⟩ : Exclusive) = _
    rw [h spans stop rfl]
    rfl
  | ended spans exit hides => rfl

section Construct

variable {g : Grammar} {text : Text} {r : BlockRule} {start inner stop resume : Nat}
  {exit : LineState} {hides : Option Nat} {spans : List Span} {kind : Kind}

/-- A construct is closed at a place of the line. -/
theorem block_closed (h : block text r start inner exit hides = .closed spans resume) :
    text.IsBoundary resume := by
  unfold block at h
  simp only at h
  split at h
  · rename_i stop hstop
    obtain rfl := (Outcome.closed.inj h).2
    exact BlockRule.isBoundary_of_findEnd hstop
  · exact absurd h (by simp)

/-- **Behind a construct there is a place between characters.** -/
theorem construct_closed (h : construct g text kind start stop = .closed spans resume) :
    text.IsBoundary resume := by
  unfold construct at h
  cases kind with
  | blockExpression i =>
    simp only at h
    split at h
    · exact block_closed h
    · exact absurd h (by simp)
  | quotation => exact block_closed h
  | lineComment => exact absurd h (by simp)
  | blockComment => exact block_closed h
  | lineExpression i =>
    simp only at h
    split at h
    · exact absurd h (by simp)
    · exact absurd h (by simp)

/-- Painting a construct and going on behind it is what the scan's step comes to. -/
theorem enclosed_eq (text : Text) (r : BlockRule) (start inner : Nat) (exit : LineState)
    (hides : Option Nat) (goOn : Nat → Exclusive) :
    enclosed text r start inner exit hides goOn
      = (block text r start inner exit hides).finish goOn := by
  unfold enclosed block
  simp only [blockSpans_eq]
  cases (r.findEnd text inner).stop with
  | none => rfl
  | some stop => rfl

theorem toEnd_eq (text : Text) (start : Nat) (style : StyleId) :
    toEnd text start style = ⟨spanOf start text.size style, .normal, some start⟩ := by
  rw [spanOf_eq]
  rfl

end Construct

/-! ## The plain scan

  The scan goes from construct to construct, the plain scan from character to character.  These
  lemmas take the plain scan to the next construct, over all that lies in between. -/

section Plain

variable {g : Grammar} {text : Text} {pos resume stop : Nat} {kind : Kind}

/-- Characters inside a construct are passed over, and those at which none begins. -/
theorem scan_skip (mid after : Text)
    (h : ∀ q, pos ≤ q → q < pos + mid.size → q < resume ∨ beginning g text q = none) :
    scan g text resume pos (mid ++ after) = scan g text resume (pos + mid.size) after := by
  induction mid generalizing pos with
  | nil => rfl
  | cons c mid ih =>
    have hc := Char.utf8Size_pos c
    rw [Text.size_cons] at h
    have hmid : scan g text resume (pos + c.utf8Size) (mid ++ after)
        = scan g text resume (pos + c.utf8Size + Text.size mid) after :=
      ih fun q hle hlt => h q (by omega) (by omega)
    -- one character: it lies in the construct, or nothing begins at it
    have hstep : scan g text resume pos (c :: (mid ++ after))
        = scan g text resume (pos + c.utf8Size) (mid ++ after) := by
      rw [scan]
      by_cases hlt : pos < resume
      · rw [if_pos hlt]
      · have hnone : beginning g text pos = none := by
          rcases h pos (Nat.le_refl _) (by omega) with hresume | hnone
          · exact absurd hresume hlt
          · exact hnone
        rw [if_neg hlt, hnone]
    rw [List.cons_append, hstep, hmid, Text.size_cons, Nat.add_assoc]

/-- Where no construct begins any more nothing is painted. -/
theorem scan_quiet (after : Text) (h : ∀ q, pos ≤ q → beginning g text q = none) :
    scan g text resume pos after = ⟨[], .normal, none⟩ := by
  have hskip : scan g text resume pos (after ++ []) = scan g text resume (pos + after.size) [] :=
    scan_skip after [] fun q hq _ => Or.inr (h q hq)
  rw [List.append_nil] at hskip
  rw [hskip]
  rfl

/-- A construct that lies behind no longer matters. -/
theorem scan_past (resume' : Nat) (after : Text) (h : resume ≤ pos) (h' : resume' ≤ pos) :
    scan g text resume pos after = scan g text resume' pos after := by
  induction after generalizing pos with
  | nil => rfl
  | cons c rest ih =>
    have hrest : scan g text resume (pos + c.utf8Size) rest
        = scan g text resume' (pos + c.utf8Size) rest := ih (by omega) (by omega)
    rw [scan, scan, if_neg (by omega), if_neg (by omega)]
    simp only [hrest]

/-- The construct of a slot that begins is a slot of the grammar. -/
theorem slot_of_beginning {m : Kind × Nat} (h : beginning g text pos = some m) :
    (∀ i, m.1 = .blockExpression i → ∃ r, g.blockExpressions[i]? = some r) ∧
      ∀ i, m.1 = .lineExpression i → ∃ r, g.lineExpressions[i]? = some r := by
  obtain ⟨kind, stop⟩ := m
  obtain ⟨p, hp, -⟩ := Plain.matchAt_eq_some (Plain.matchAt_of_beginning h)
  constructor
  · rintro i rfl
    obtain ⟨r, hr, -⟩ := Option.bind_eq_some_iff.mp hp
    exact ⟨r, hr⟩
  · rintro i rfl
    obtain ⟨r, hr, -⟩ := Option.bind_eq_some_iff.mp hp
    exact ⟨r, hr⟩

/-- **What the plain scan does with a construct that begins is what the scan does.** -/
theorem scan_of_beginning (c : Char) (rest : Text) (hresume : resume ≤ pos)
    (h : beginning g text pos = some (kind, stop)) :
    scan g text resume pos (c :: rest)
      = (construct g text kind pos stop).finish fun resume =>
          scan g text resume (pos + c.utf8Size) rest := by
  obtain ⟨hblock, hline⟩ := slot_of_beginning h
  rw [scan, if_neg (by omega), h]
  cases kind with
  | blockExpression i =>
    obtain ⟨r, hr⟩ := hblock i rfl
    simp only [construct, hr]
    exact enclosed_eq ..
  | quotation => exact enclosed_eq ..
  | lineComment => exact toEnd_eq ..
  | blockComment => exact enclosed_eq ..
  | lineExpression i =>
    obtain ⟨r, hr⟩ := hline i rfl
    simp only [construct, hr]
    exact toEnd_eq ..

end Plain

/-! ## Side by side

  What the starters remember is right for the offset (`Sound`), so a turn of the scan is one of
  three: a construct begins here, the next one may begin at the nearest match, or none begins any
  more (`scanFrom_hit`, `scanFrom_jump`, `scanFrom_rest`). -/

section SideBySide

variable {g : Grammar} {text : Text}

/-- Going on behind a construct: from its end, or from the next character if it ends right where it
    began. -/
theorem resume_eq {before rest : Text} {c : Char} {resume : Nat} (later : Nat → Exclusive)
    (htext : text = before ++ c :: rest) (hresume : text.IsBoundary resume)
    (hlater : ∀ before' after', text = before' ++ after' → before.size < before'.size →
      later before'.size = scan g text 0 before'.size after') :
    later (if before.size < resume then resume else text.nextBoundary before.size)
      = scan g text resume (before.size + c.utf8Size) rest := by
  have hc := Char.utf8Size_pos c
  have hnext : (before ++ [c]).size = before.size + c.utf8Size := by simp
  have htext' : text = (before ++ [c]) ++ rest := by rw [htext]; simp
  by_cases hlt : before.size < resume
  · -- the end of the construct is a place further on, behind at least this character
    rw [if_pos hlt]
    obtain ⟨mid, after', hafter, hsize⟩ := Text.exists_between (htext ▸ hresume) (Nat.le_of_lt hlt)
    cases mid with
    | nil =>
      rw [List.append_nil] at hsize
      omega
    | cons d mid =>
      have hd : c = d := (List.cons.inj hafter).1
      have hrest : rest = mid ++ after' := (List.cons.inj hafter).2
      have hend : resume = before.size + c.utf8Size + Text.size mid := by
        rw [hsize, hd]
        simp [Nat.add_assoc]
      rw [hrest, scan_skip mid after' fun q _ hq => Or.inl (by omega), ← hend,
        scan_past 0 after' (Nat.le_refl _) (Nat.zero_le _), hsize]
      exact hlater _ _ (by rw [htext, hd, hrest]; simp) (by omega)
  · -- the construct ends right where it began
    rw [if_neg hlt, htext, Text.nextBoundary_size, ← htext,
      scan_past 0 rest (by omega) (Nat.zero_le _), ← hnext]
    exact hlater _ _ htext' (by omega)

/-- What a jump passes over, the plain scan passes over one by one. -/
theorem scan_of_jump {before after : Text} {next : Nat} (htext : text = before ++ after)
    (hlt : before.size < next) (hboundary : text.IsBoundary next)
    (hquiet : ∀ q, before.size ≤ q → q < next → beginning g text q = none) :
    ∃ mid later, text = (before ++ mid) ++ later ∧ next = (before ++ mid).size ∧
      scan g text 0 before.size after = scan g text 0 next later := by
  obtain ⟨mid, later, hafter, hend⟩ :=
    Text.exists_between (htext ▸ hboundary) (Nat.le_of_lt hlt)
  have hend' : next = before.size + mid.size := by rw [hend, Text.size_append]
  refine ⟨mid, later, by rw [htext, hafter, List.append_assoc], hend, ?_⟩
  rw [hafter, scan_skip mid later fun q hq hq' => Or.inr (hquiet q hq (by omega)), ← hend']

section Step

variable {fuel pos next start stop : Nat} {ss ss' : List Starter} {kind : Kind}

/-- The turn of the scan at an offset where a construct begins. -/
theorem scanFrom_hit (hpos : pos < text.size)
    (h : firstHit text pos ss = (some (kind, start, stop), ss')) :
    scanFrom g text (fuel + 1) pos ss = (construct g text kind start stop).finish fun resume =>
      scanFrom g text fuel (if pos < resume then resume else text.nextBoundary pos) ss' := by
  rw [scanFrom, if_neg (by omega), h]
  simp only
  cases construct g text kind start stop with
  | closed spans resume => rfl
  | ended spans exit hides => rfl

/-- The turn where none begins and some match is remembered further on. -/
theorem scanFrom_jump (hpos : pos < text.size) (h : firstHit text pos ss = (none, ss'))
    (hnearest : nearest ss' = some next) (hlt : pos < next) :
    scanFrom g text (fuel + 1) pos ss = scanFrom g text fuel next ss' := by
  rw [scanFrom, if_neg (by omega), h]
  simp only [hnearest]
  exact if_pos hlt

/-- The turn where none begins and no match is remembered: the scan is done. -/
theorem scanFrom_rest (hpos : pos < text.size) (h : firstHit text pos ss = (none, ss'))
    (hnearest : nearest ss' = none) :
    scanFrom g text (fuel + 1) pos ss = ⟨[], .normal, none⟩ := by
  rw [scanFrom, if_neg (by omega), h]
  simp only [hnearest]

end Step

/-- **From every place on both scans come to the same result.** -/
theorem scanFrom_eq_scan (fuel : Nat) (before after : Text) (ss : List Starter)
    (htext : text = before ++ after) (hkeys : ss.map Starter.key = keysOf g)
    (hsound : ∀ s ∈ ss, s.Sound text before.size) (hfuel : after.size ≤ fuel) :
    scanFrom g text fuel before.size ss = scan g text 0 before.size after := by
  induction fuel generalizing before after ss with
  | zero =>
    rw [Text.eq_nil_of_size (Nat.le_zero.mp hfuel)]
    rfl
  | succ fuel ih =>
    have hsize : text.size = before.size + after.size := by rw [htext, Text.size_append]
    -- any later place is a step on
    have hlater : ∀ ss, ss.map Starter.key = keysOf g → (∀ s ∈ ss, s.Sound text before.size) →
        ∀ before' after', text = before' ++ after' → before.size < before'.size →
          scanFrom g text fuel before'.size ss = scan g text 0 before'.size after' := by
      intro ss hkeys hsound before' after' htext' hlt
      have hsize' : text.size = before'.size + after'.size := by rw [htext', Text.size_append]
      exact ih before' after' ss htext' hkeys
        (fun s hs => (hsound s hs).mono (Nat.le_of_lt hlt)) (by omega)
    cases after with
    | nil =>
      rw [scanFrom, if_pos (by rw [hsize, Text.size_nil]; omega)]
      rfl
    | cons c rest =>
      have hc := Char.utf8Size_pos c
      have hpos : before.size < text.size := by rw [hsize, Text.size_cons]; omega
      have hlooked := firstHit_looked hsound
      have hkeys' := hlooked.keys.trans hkeys
      have hlater' := hlater _ hkeys' hlooked.sound
      have hhit := hlooked.hit
      rw [hkeys, hitOf_keysOf] at hhit
      cases hbegin : beginning g text before.size with
      | some m =>
        obtain ⟨kind, stop⟩ := m
        rw [hbegin] at hhit
        rw [scanFrom_hit hpos (Prod.ext hhit rfl),
          scan_of_beginning c rest (Nat.zero_le _) hbegin]
        refine finish_congr fun spans resume hclosed => ?_
        exact resume_eq (fun q => scanFrom g text fuel q _) htext (construct_closed hclosed) hlater'
      | none =>
        -- no hit, so all starters have been looked at
        rw [hbegin] at hhit
        have hcurrent := hlooked.current hhit
        cases hnearest : nearest (firstHit text before.size ss).2 with
        | none =>
          rw [scanFrom_rest hpos (Prod.ext hhit rfl) hnearest]
          exact (scan_quiet _ fun q hq => nearest_none hkeys' hcurrent hnearest hq).symm
        | some next =>
          obtain ⟨hlt, hboundary, hquiet⟩ := nearest_spec hkeys' hcurrent hbegin hnearest
          obtain ⟨mid, later, htext', hend, hscan⟩ := scan_of_jump htext hlt hboundary hquiet
          rw [scanFrom_jump hpos (Prod.ext hhit rfl) hnearest hlt, hscan, hend]
          exact hlater' _ _ htext' (hend ▸ hlt)

end SideBySide

/-! ## The line

  A line begins inside the construct that the line before has left open, or at offset 0 with
  starters that know nothing yet. -/

/-- The construct that a line goes on with is the one left open, if it is enabled. -/
theorem openRule_eq (g : Grammar) (entry : LineState) :
    openRule g entry = (Plain.leftOpen g entry).filter (·.isEnabled) := by
  cases entry with
  | normal => rfl
  | inBlockComment => rfl
  | inBlockExpression i => rfl

/-- Up to where the plain scan resumes it only passes characters over. -/
theorem scan_resumed {g : Grammar} {text before after : Text} (htext : text = before ++ after) :
    scan g text before.size 0 text = scan g text 0 before.size after := by
  have hskip : scan g text before.size 0 (before ++ after)
      = scan g text before.size (0 + before.size) after :=
    scan_skip before after fun q _ hq => Or.inl (by omega)
  rw [← htext, Nat.zero_add] at hskip
  rw [hskip]
  exact scan_past _ after (Nat.le_refl _) (Nat.zero_le _)

/-- From any place on, the scan with fresh starters is the plain scan resumed there. -/
theorem scanFrom_starters {g : Grammar} {text : Text} {resume : Nat}
    (hresume : text.IsBoundary resume) :
    scanFrom g text text.size resume (starters g) = scan g text resume 0 text := by
  obtain ⟨before, after, htext, rfl⟩ := hresume
  have hsize : text.size = before.size + after.size := by rw [htext, Text.size_append]
  rw [scanFrom_eq_scan _ before after _ htext (starters_key g) (starters_sound g text _) (by omega),
    scan_resumed htext]

/-- **The exclusive layer is that of the plain scan.** -/
theorem exclusive_eq (g : Grammar) (text : Text) (entry : LineState) :
    exclusive g text entry = Plain.exclusive g text entry := by
  unfold exclusive Plain.exclusive
  rw [openRule_eq]
  cases (Plain.leftOpen g entry).filter (·.isEnabled) with
  | none => exact scanFrom_starters ⟨[], text, rfl, rfl⟩
  | some r =>
    simp only [enclosed_eq]
    cases hblock : block text r 0 0 entry (some 0) with
    | ended spans exit hides => rfl
    | closed spans resume =>
      simp only [Outcome.finish]
      rw [scanFrom_starters (block_closed hblock)]

end Scan

/-- What `highlight` makes of a line is what the plain scan makes of it, over the simple layer. -/
theorem Plain.highlights_highlight (g : Grammar) (text : Text) (entry : LineState) :
    Plain.Highlights g text entry (highlight g text entry) := by
  have hsimple : Plain.SimpleLayer text (g.keywords ++ [g.numbers] ++ g.expressions)
      (Scan.simpleSpans g text) := by
    rw [List.append_assoc]
    exact Scan.simpleLayer_ruleSpans text _
  refine ⟨Scan.simpleSpans g text, hsimple, ?_, ?_⟩
  · rw [highlight, Scan.exclusive_eq, ← Scan.dropFrom_eq]
  · rw [highlight, Scan.exclusive_eq]

/-- The plain scan makes one thing only of a line: its simple layer is determined by the rules. -/
theorem Plain.Highlights.unique {g : Grammar} {text : Text} {entry : LineState}
    {h h' : Highlighted} (hh : Plain.Highlights g text entry h)
    (hh' : Plain.Highlights g text entry h') : h = h' := by
  obtain ⟨simple, hlayer, hspans, hexit⟩ := hh
  obtain ⟨simple', hlayer', hspans', hexit'⟩ := hh'
  obtain rfl := Scan.SimpleLayer.unique hlayer hlayer'
  cases h
  cases h'
  simp only at hspans hexit hspans' hexit'
  rw [hspans, hexit, hspans', hexit']

/-- **A line is highlighted the plain way**, whatever the grammar, the text and the state it begins
    in: the matches that the scan remembers, and its jumps, leave no trace. -/
theorem highlights_iff_highlight (g : Grammar) (text : Text) (entry : LineState) (h : Highlighted) :
    Plain.Highlights g text entry h ↔ highlight g text entry = h := by
  constructor
  · intro hh
    exact (Plain.highlights_highlight g text entry).unique hh
  · rintro rfl
    exact Plain.highlights_highlight g text entry

end Highlight
