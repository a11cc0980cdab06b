/-
  Offsets are places between characters.

  A search that began behind the end of the line, or inside a character, would end the program, and
  so would cutting the line at such an offset.  Neither happens.

  1. **Places** — the two ends of a line are places, and behind a character at a place there is
     another one (`IsBoundary.nextBoundary`).  The predicate is decidable, so the guard below can be
     run.

  2. **Spans** — every span is the match of a simple rule, a construct or an escape; these begin and
     end where some search has found something, or at the ends of the line
     (`wellFormed_of_mem_spans`).

  3. **Searches** — `Guarded.highlight` is the highlighting in which every search looks where it
     begins, and ends the highlighting with an error where no place is; running out of fuel is an
     error as well.  It is written function by function after the unguarded one, and each function
     gets one equation: at a place of the line it comes to what the unguarded one comes to
     (`search_eq`, `endStep_eq`, `findEnd_eq`, `construct_eq`, `firstHit_eq`, `scanFrom_eq`).

  4. **The crux** — a search begins at the beginning of the line, or goes on from what one before
     has found.  Only behind the last character there is no next one to go on from, and that is
     where the search for the end of a construct leaves the line and stops (`endStep_resume`).  The
     scan itself goes on from the end of a construct, from the next character, or from a match that
     a starter remembers; the last of these is a place because what starters remember is sound
     (`Scan.firstHit_looked`).

  Main result: **`highlight_wellFormed`**.
-/
import Highlight.Proofs.Scan.Partition

namespace Highlight

open Scan (Kind Starter Outcome Exclusive)

/-! ## Places -/

namespace Text

variable {text : Text} {pos : Nat}

instance (text : Text) (n : Nat) : Decidable (text.IsBoundary n) :=
  decidable_of_iff (∃ before ∈ text.inits, n = size before) <| by
    constructor
    · rintro ⟨before, hbefore, hn⟩
      obtain ⟨after, rfl⟩ := (List.mem_inits _ _).mp hbefore
      exact ⟨before, after, rfl, hn⟩
    · rintro ⟨before, after, rfl, hn⟩
      exact ⟨before, (List.mem_inits _ _).mpr ⟨after, rfl⟩, hn⟩

/-- A line begins at a place. -/
theorem isBoundary_zero (text : Text) : text.IsBoundary 0 := ⟨[], text, rfl, rfl⟩

/-- A line ends at a place. -/
theorem isBoundary_size (text : Text) : text.IsBoundary text.size :=
  ⟨text, [], (List.append_nil text).symm, rfl⟩

/-- There are no places behind the end of the line. -/
theorem IsBoundary.le_size (h : text.IsBoundary pos) : pos ≤ text.size := by
  obtain ⟨before, after, rfl, rfl⟩ := h
  rw [size_append]
  exact Nat.le_add_right _ _

/-- Behind a character there is a place. -/
theorem IsBoundary.nextBoundary (h : text.IsBoundary pos) (hlt : pos < text.size) :
    text.IsBoundary (text.nextBoundary pos) := by
  obtain ⟨before, after, rfl, rfl⟩ := h
  cases after with
  | nil =>
    rw [List.append_nil] at hlt
    exact absurd hlt (Nat.lt_irrefl _)
  | cons c rest =>
    rw [nextBoundary_size]
    exact ⟨before ++ [c], rest, by simp, by simp⟩

end Text

/-! ## Spans -/

/-- A span that is not empty and is cut out between two places of a text. -/
structure Span.WellFormed (text : Text) (s : Span) : Prop where
  nonempty : 0 < s.length
  start_boundary : text.IsBoundary s.start
  stop_boundary : text.IsBoundary s.stop
  stop_le : s.stop ≤ text.size

section WellFormed

variable {g : Grammar} {text : Text} {entry : LineState} {c : Construct} {s : Span}

/-- Two different places cut out a well-formed span. -/
theorem wellFormed_between {start stop : Nat} (style : StyleId) (hlt : start < stop)
    (hstart : text.IsBoundary start) (hstop : text.IsBoundary stop) :
    (Span.between start stop style).WellFormed text where
  nonempty := Nat.sub_pos_of_lt hlt
  start_boundary := hstart
  stop_boundary := by rwa [Painting.stop_between hlt]
  stop_le := by
    rw [Painting.stop_between hlt]
    exact hstop.le_size

/-- A construct begins at a place, and the search for its end does: both are offset zero for one
    that the line before has left open, and the two ends of a match otherwise. -/
theorem Plain.Begins.isBoundary {r : BlockRule} {start inner : Nat}
    (h : Plain.Begins g text entry r start inner) :
    text.IsBoundary start ∧ text.IsBoundary inner := by
  cases h with
  | inherited => exact ⟨text.isBoundary_zero, text.isBoundary_zero⟩
  | opened hr hmatch =>
    obtain ⟨p, -, hfind⟩ := Plain.matchAt_eq_some hmatch
    exact Pattern.isBoundary_of_findAt hfind

/-- A construct begins and ends at places of the line, and so do its escapes. -/
theorem Construct.Occurs.isBoundary (h : c.Occurs g text entry) :
    text.IsBoundary c.start ∧ text.IsBoundary c.stop ∧
      ∀ e ∈ c.escapes, text.IsBoundary e.1 ∧ text.IsBoundary e.2 := by
  cases h with
  | @block r start inner hbegins =>
    obtain ⟨d, hfinds⟩ := hbegins.finds
    refine ⟨hbegins.isBoundary.1, ?_, fun e he => ?_⟩
    · show text.IsBoundary ((r.findEnd text inner).stop.getD text.size)
      cases hstop : (r.findEnd text inner).stop with
      | none => exact text.isBoundary_size
      | some stop => exact BlockRule.isBoundary_of_findEnd hstop
    · obtain ⟨p, -, hmatch⟩ := (hfinds.recorded e he).escapes
      exact Pattern.isBoundary_of_findAt hmatch
  | line hr hmatch =>
    obtain ⟨p, -, hfind⟩ := Plain.matchAt_eq_some hmatch
    exact ⟨(Pattern.isBoundary_of_findAt hfind).1, text.isBoundary_size,
      fun _ he => absurd he List.not_mem_nil⟩

/-- The spans of a construct that is not empty are well formed, that of the construct itself and
    those of its escapes. -/
theorem Construct.wellFormed (hoccurs : c.Occurs g text entry) (hfits : c.Fits text)
    (hs : s ∈ c.spans) : s.WellFormed text := by
  obtain ⟨hstart, hstop, hescapes⟩ := hoccurs.isBoundary
  rcases List.mem_cons.mp hs with rfl | hs
  · exact wellFormed_between _ hfits.lt hstart hstop
  · obtain ⟨e, he, rfl⟩ := List.mem_map.mp hs
    exact wellFormed_between _ (hfits.escapes_lt e he) (hescapes e he).1 (hescapes e he).2

/-- **No span is empty, and every span is cut out between two places**, of the simple layer and of
    the exclusive layer alike. -/
theorem wellFormed_of_mem_spans (hs : s ∈ (highlight g text entry).spans) :
    s.WellFormed text := by
  obtain ⟨simple, hlayer, hspans, -⟩ := Plain.highlights_highlight g text entry
  rw [hspans] at hs
  rcases List.mem_append.mp hs with hs | hs
  · obtain ⟨p, q, m, hfind, hlt, heq⟩ := hlayer.found s (List.mem_filter.mp hs).1
    rw [heq]
    have hboundary := Pattern.isBoundary_of_findAt hfind
    exact wellFormed_between _ hlt hboundary.1 hboundary.2
  · obtain ⟨cs, hcs, -⟩ := Plain.exclusive_splits g text entry
    rw [hcs.painted] at hs
    obtain ⟨c, hc, hs⟩ := List.mem_flatMap.mp hs
    exact Construct.wellFormed (hcs.occurs c hc) (hcs.fits c hc) hs

end WellFormed

/-! ## Searches -/

namespace Guarded

/-- What a pattern finds from an offset on; the error is an offset that is no place of the text. -/
def search (text : Text) (p : Pattern) (pos : Nat) : Except Nat (Option (Nat × Nat)) :=
  if text.IsBoundary pos then .ok (p.findAt text pos) else .error pos

/-- The escape that a search at an offset meets, if it is not empty. -/
def escapeAt (d : Delimiters) (text : Text) (pos : Nat) : Except Nat (Option (Nat × Nat)) :=
  match d.escape with
  | some p => do
    let e ← search text p pos
    return e.filter fun (start, stop) => start ≠ stop
  | none => return none

/-- One step of the search for the end of a construct. -/
def endStep (d : Delimiters) (text : Text) (pos : Nat) (escapes : List (Nat × Nat)) :
    Except Nat Delimiters.EndStep := do
  let closing ← search text d.closing pos
  let escape ← escapeAt d text pos
  match closing, escape with
  | none, none => return .finish none
  | none, some e => return .goOn e.2 (e :: escapes)
  | some t, none => return Delimiters.atDelimiter text escapes t
  | some t, some e =>
    if e.1 ≤ t.1 then return .goOn e.2 (e :: escapes)
    else return Delimiters.atDelimiter text escapes t

/-- Search on from an offset, as long as it does not lie behind the end of the line. -/
def findEndFrom (d : Delimiters) (text : Text) : (fuel : Nat) → (pos : Nat) →
    (escapes : List (Nat × Nat)) → Except Nat EndSearch
  | 0, pos, _ => .error pos
  | fuel + 1, pos, escapes => do
    if text.size < pos then return ⟨none, escapes.reverse⟩
    match ← endStep d text pos escapes with
    | .finish stop => return ⟨stop, escapes.reverse⟩
    | .goOn pos escapes => findEndFrom d text fuel pos escapes

/-- The end of a construct, searched from an offset on. -/
def findEnd (r : BlockRule) (text : Text) (pos : Nat) : Except Nat EndSearch :=
  match r.delimiters with
  | some d => findEndFrom d text (text.length + 2) pos []
  | none => return {}

/-- Bring the remembered match of a starter up to date. -/
def refresh (s : Starter) (text : Text) (pos : Nat) : Except Nat Starter := do
  if s.isStale pos then return { s with next := ← search text s.pattern pos, searched := some pos }
  else return s

/-- The first starter with a match at an offset, and all starters as far as they had to be brought
    up to date. -/
def firstHit (text : Text) (pos : Nat) :
    List Starter → Except Nat (Option (Kind × Nat × Nat) × List Starter)
  | [] => return (none, [])
  | s :: rest => do
    let s ← refresh s text pos
    match s.hitAt pos with
    | some (start, stop) => return (some (s.kind, start, stop), s :: rest)
    | none =>
      let (hit, rest) ← firstHit text pos rest
      return (hit, s :: rest)

/-- Handle a delimited construct. -/
def block (text : Text) (r : BlockRule) (start inner : Nat) (exit : LineState)
    (hides : Option Nat) : Except Nat Outcome := do
  let search ← findEnd r text inner
  let spans := Scan.blockSpans text r start search
  match search.stop with
  | some stop => return .closed spans stop
  | none => return .ended spans exit hides

/-- Handle a construct whose opening match is given. -/
def construct (g : Grammar) (text : Text) (kind : Kind) (start stop : Nat) : Except Nat Outcome :=
  match kind with
  | .blockExpression i =>
    match g.blockExpressions[i]? with
    | some r => block text r start stop (.inBlockExpression i) (some start)
    | none => return .ended [] .normal none
  | .quotation => block text g.quotation start stop .normal none
  | .lineComment =>
    return .ended (Scan.spanOf start text.size g.lineComment.style) .normal (some start)
  | .blockComment => block text g.blockComment start stop .inBlockComment (some start)
  | .lineExpression i =>
    match g.lineExpressions[i]? with
    | some r => return .ended (Scan.spanOf start text.size r.style) .normal (some start)
    | none => return .ended [] .normal none

/-- Scan on from an offset. -/
def scanFrom (g : Grammar) (text : Text) :
    (fuel : Nat) → (pos : Nat) → List Starter → Except Nat Exclusive
  | 0, pos, _ => if text.size ≤ pos then return ⟨[], .normal, none⟩ else .error pos
  | fuel + 1, pos, ss => do
    if text.size ≤ pos then return ⟨[], .normal, none⟩
    match ← firstHit text pos ss with
    | (none, ss) =>
      match Scan.nearest ss with
      | some next => if pos < next then scanFrom g text fuel next ss else return ⟨[], .normal, none⟩
      | none => return ⟨[], .normal, none⟩
    | (some (kind, start, stop), ss) =>
      match ← construct g text kind start stop with
      | .ended spans exit hides => return ⟨spans, exit, hides⟩
      | .closed spans resume =>
        let tail ← scanFrom g text fuel (if pos < resume then resume else text.nextBoundary pos) ss
        return { tail with spans := spans ++ tail.spans }

/-- The exclusive layer of a line that begins in a state. -/
def exclusive (g : Grammar) (text : Text) (entry : LineState) : Except Nat Exclusive :=
  match Scan.openRule g entry with
  | none => scanFrom g text text.size 0 (Scan.starters g)
  | some r => do
    match ← block text r 0 0 entry (some 0) with
    | .ended spans exit hides => return ⟨spans, exit, hides⟩
    | .closed spans resume =>
      let tail ← scanFrom g text text.size resume (Scan.starters g)
      return { tail with spans := spans ++ tail.spans }

/-- Highlight a line that begins in a state. -/
def highlight (g : Grammar) (text : Text) (entry : LineState) : Except Nat Highlighted := do
  let layer ← exclusive g text entry
  return ⟨Scan.dropFrom layer.hides (Scan.simpleSpans g text) ++ layer.spans, layer.exit⟩

section Eq

variable {g : Grammar} {d : Delimiters} {text : Text} {pos : Nat} {escapes : List (Nat × Nat)}

/-- At a place of the line a guarded search is a search. -/
theorem search_eq (p : Pattern) (h : text.IsBoundary pos) :
    search text p pos = .ok (p.findAt text pos) := if_pos h

/-- The second byte of a letter of two bytes is no place, and neither is the byte behind it. -/
example : search "é".toList default 1 = .error 1 ∧ search "é".toList default 3 = .error 3 := by
  decide

/-! ### The end of a construct -/

theorem escapeAt_eq (d : Delimiters) (h : text.IsBoundary pos) :
    escapeAt d text pos = .ok (d.escapeAt text pos) := by
  unfold escapeAt Delimiters.escapeAt
  cases d.escape with
  | none => rfl
  | some p =>
    simp only [search_eq p h, bind, Except.bind]
    rfl

/-- One step looks for the closing delimiter and for an escape from the same place on. -/
theorem endStep_eq (d : Delimiters) (escapes : List (Nat × Nat)) (h : text.IsBoundary pos) :
    endStep d text pos escapes = .ok (d.endStep text pos escapes) := by
  unfold endStep Delimiters.endStep
  simp only [search_eq d.closing h, escapeAt_eq d h, bind, Except.bind, pure, Except.pure]
  cases d.closing.findAt text pos with
  | none => cases d.escapeAt text pos <;> rfl
  | some t =>
    cases d.escapeAt text pos with
    | none => rfl
    | some e =>
      simp only
      split <;> rfl

/-- Behind the end of the line nothing is found. -/
theorem endStep_past (d : Delimiters) (escapes : List (Nat × Nat)) (h : text.size < pos) :
    d.endStep text pos escapes = .finish none := by
  have hnone : ∀ p : Pattern, p.findAt text pos = none := by
    intro p
    refine Option.eq_none_iff_forall_ne_some.mpr fun m hm => ?_
    have hbounds := Pattern.le_of_findAt hm
    omega
  have hescape : d.escapeAt text pos = none := by
    unfold Delimiters.escapeAt
    cases d.escape with
    | none => rfl
    | some p =>
      rw [Option.bind_some, hnone]
      rfl
  rw [Delimiters.endStep, hnone, hescape]

/-- **The search goes on from a place of the line, or leaves the line.** -/
theorem endStep_resume {pos' : Nat} {escapes' : List (Nat × Nat)}
    (h : d.endStep text pos escapes = .goOn pos' escapes') :
    text.size < pos' ∨ text.IsBoundary pos' := by
  have hstep := Closing.step_endStep d text pos escapes
  rw [h] at hstep
  cases hstep with
  | escape hescape _ =>
    obtain ⟨⟨p, -, hmatch⟩, -⟩ := Closing.escapeAt_spec hescape
    exact .inr (Pattern.isBoundary_of_findAt hmatch).2
  | @pass t hclosing _ _ =>
    obtain ⟨hstart, hstop⟩ := Pattern.isBoundary_of_findAt hclosing
    have hlt := Text.lt_nextBoundary text t.1
    unfold Closing.resume
    split
    · exact .inr hstop
    · rcases Nat.lt_or_ge t.1 text.size with hinside | hend
      · exact .inr (hstart.nextBoundary hinside)
      · exact .inl (Nat.lt_of_le_of_lt hend hlt)

/-- **The search for the end begins at places only**, by induction on the fuel.  What the fuel is
    measured against are the places that are left, so it does not run out; and the search that
    leaves the line finds nothing there, which is why the guarded one may stop. -/
theorem findEndFrom_eq (fuel pos : Nat) (escapes : List (Nat × Nat))
    (hfuel : text.placesFrom pos < fuel) (hpos : text.size < pos ∨ text.IsBoundary pos) :
    findEndFrom d text fuel pos escapes = .ok (d.findEndFrom text fuel pos escapes) := by
  induction fuel generalizing pos escapes with
  | zero => exact absurd hfuel (Nat.not_lt_zero _)
  | succ fuel ih =>
    unfold findEndFrom Delimiters.findEndFrom
    rcases hpos with hpast | hplace
    · -- the plain search looks behind the end of the line, and finds nothing there
      rw [if_pos hpast, endStep_past d escapes hpast]
      rfl
    · have hle := hplace.le_size
      rw [if_neg (by omega), endStep_eq d escapes hplace]
      simp only [bind, Except.bind, pure, Except.pure]
      cases hstep : d.endStep text pos escapes with
      | finish stop => rfl
      | goOn pos' escapes' =>
        obtain ⟨n, hn, hlo, hhi⟩ := Closing.exists_place_of_goOn hstep
        have hfewer := Text.placesFrom_lt hn hlo hhi
        exact ih pos' escapes' (by omega) (endStep_resume hstep)

/-- The fuel that the search for the end is given, two more than the line has characters, suffices
    from every place on. -/
theorem findEnd_eq (r : BlockRule) (h : text.IsBoundary pos) :
    findEnd r text pos = .ok (r.findEnd text pos) := by
  unfold findEnd BlockRule.findEnd
  cases r.delimiters with
  | none => rfl
  | some d =>
    have hplaces := Text.placesFrom_le text pos
    exact findEndFrom_eq _ pos [] (by omega) (.inr h)

theorem block_eq {inner : Nat} (r : BlockRule) (start : Nat) (exit : LineState)
    (hides : Option Nat) (h : text.IsBoundary inner) :
    block text r start inner exit hides = .ok (Scan.block text r start inner exit hides) := by
  unfold block Scan.block
  simp only [findEnd_eq r h, bind, Except.bind, pure, Except.pure]
  cases (r.findEnd text inner).stop with
  | none => rfl
  | some stop => rfl

/-- Only the constructs between delimiters search on; the others run to the end of the line. -/
theorem construct_eq {stop : Nat} (g : Grammar) (kind : Kind) (start : Nat)
    (h : text.IsBoundary stop) :
    construct g text kind start stop = .ok (Scan.construct g text kind start stop) := by
  cases kind with
  | blockExpression i =>
    simp only [construct, Scan.construct]
    cases g.blockExpressions[i]? with
    | none => rfl
    | some r => exact block_eq r _ _ _ h
  | quotation => exact block_eq _ _ _ _ h
  | lineComment => rfl
  | blockComment => exact block_eq _ _ _ _ h
  | lineExpression i =>
    simp only [construct, Scan.construct]
    cases g.lineExpressions[i]? with
    | none => rfl
    | some r => rfl

/-! ### The scan -/

theorem refresh_eq (s : Starter) (h : text.IsBoundary pos) :
    refresh s text pos = .ok (s.refresh text pos) := by
  unfold refresh Starter.refresh
  split
  · simp only [search_eq s.pattern h, bind, Except.bind]
    rfl
  · rfl

/-- Bringing starters up to date searches at the place where the scan is. -/
theorem firstHit_eq (ss : List Starter) (h : text.IsBoundary pos) :
    firstHit text pos ss = .ok (Scan.firstHit text pos ss) := by
  induction ss with
  | nil => rfl
  | cons s ss ih =>
    unfold firstHit Scan.firstHit
    simp only [refresh_eq s h, ih, bind, Except.bind, pure, Except.pure]
    cases (s.refresh text pos).hitAt pos with
    | none => rfl
    | some m => rfl

/-- What hits has been found by a search. -/
theorem isBoundary_of_hitOf {keys : List (Kind × Pattern)} {kind : Kind} {stop : Nat}
    (h : Scan.hitOf text pos keys = some (kind, stop)) : text.IsBoundary stop := by
  obtain ⟨k, -, hsome⟩ := List.exists_of_findSome?_eq_some h
  obtain ⟨stop', hmatch, heq⟩ := Option.map_eq_some_iff.mp hsome
  obtain ⟨p, -, hfind⟩ := Plain.matchAt_eq_some hmatch
  obtain ⟨-, rfl⟩ := Prod.mk.inj heq
  exact (Pattern.isBoundary_of_findAt hfind).2

/-- Behind a construct, or else behind the next character, there is a place of the line. -/
theorem resume_place {kind : Kind} {start stop resume : Nat} {spans : List Span}
    (hplace : text.IsBoundary pos) (hpos : pos < text.size)
    (h : Scan.construct g text kind start stop = .closed spans resume) :
    let next := if pos < resume then resume else text.nextBoundary pos
    pos < next ∧ text.IsBoundary next := by
  simp only
  split
  · rename_i hlt
    exact ⟨hlt, Scan.construct_closed h⟩
  · exact ⟨Text.lt_nextBoundary text pos, hplace.nextBoundary hpos⟩

/-- **The scan searches only at places of the line**, by induction on what is left of it. -/
theorem scanFrom_eq (fuel pos : Nat) (ss : List Starter) (hplace : text.IsBoundary pos)
    (hsound : ∀ s ∈ ss, s.Sound text pos) (hfuel : text.size ≤ pos + fuel) :
    scanFrom g text fuel pos ss = .ok (Scan.scanFrom g text fuel pos ss) := by
  induction fuel generalizing pos ss with
  | zero => exact if_pos hfuel
  | succ fuel ih =>
    unfold scanFrom Scan.scanFrom
    by_cases hend : text.size ≤ pos
    · rw [if_pos hend, if_pos hend]
      rfl
    have hlooked := Scan.firstHit_looked hsound
    rw [if_neg hend, if_neg hend, firstHit_eq ss hplace]
    simp only [bind, Except.bind, pure, Except.pure]
    generalize Scan.firstHit text pos ss = result at hlooked ⊢
    obtain ⟨hit, ss'⟩ := result
    -- any later place is a step on
    have hlater : ∀ next, pos < next ∧ text.IsBoundary next →
        scanFrom g text fuel next ss' = .ok (Scan.scanFrom g text fuel next ss') := by
      intro next hnext
      have hlt := hnext.1
      refine ih next ss' hnext.2 (fun s hs => ?_) (by omega)
      exact (hlooked.sound s hs).mono (Nat.le_of_lt hlt)
    cases hit with
    | none =>
      simp only
      cases hnearest : Scan.nearest ss' with
      | none => rfl
      | some next =>
        -- a jump leads to what some starter has found
        obtain ⟨s, -, m, -, hfind, rfl⟩ := Scan.exists_of_nearest (hlooked.current rfl) hnearest
        simp only
        split
        · rename_i hlt
          exact hlater m.1 ⟨hlt, (Pattern.isBoundary_of_findAt hfind).1⟩
        · rfl
    | some m =>
      -- the end of a construct is searched from the end of the match that begins it
      obtain ⟨kind, start, stop⟩ := m
      obtain ⟨⟨kind', stop'⟩, hhit, heq⟩ := Option.map_eq_some_iff.mp hlooked.hit.symm
      obtain ⟨rfl, rfl, rfl⟩ : kind' = kind ∧ pos = start ∧ stop' = stop := by simpa using heq
      simp only [construct_eq g kind' pos (isBoundary_of_hitOf hhit)]
      cases hclosed : Scan.construct g text kind' pos stop' with
      | ended spans exit hides => rfl
      | closed spans resume =>
        simp only [hlater _ (resume_place hplace (Nat.lt_of_not_le hend) hclosed)]

/-- A line that goes on with a construct searches its end from offset zero, and the scan begins
    where that has been found. -/
theorem exclusive_eq (g : Grammar) (text : Text) (entry : LineState) :
    exclusive g text entry = .ok (Scan.exclusive g text entry) := by
  have hscan : ∀ resume, text.IsBoundary resume →
      scanFrom g text text.size resume (Scan.starters g)
        = .ok (Scan.scanFrom g text text.size resume (Scan.starters g)) :=
    fun resume h => scanFrom_eq _ _ _ h (Scan.starters_sound g text resume) (Nat.le_add_left _ _)
  unfold exclusive Scan.exclusive
  cases Scan.openRule g entry with
  | none => exact hscan 0 text.isBoundary_zero
  | some r =>
    simp only [block_eq r 0 entry (some 0) text.isBoundary_zero, bind, Except.bind, pure,
      Except.pure]
    cases hblock : Scan.block text r 0 0 entry (some 0) with
    | ended spans exit hides => rfl
    | closed spans resume => simp only [hscan resume (Scan.block_closed hblock)]

/-- **Every search of the highlighting begins at a place of the line.** -/
theorem highlight_eq (g : Grammar) (text : Text) (entry : LineState) :
    highlight g text entry = .ok (Highlight.highlight g text entry) := by
  unfold highlight
  rw [exclusive_eq]
  rfl

end Eq

end Guarded

/-- **Offsets are places between characters**, whatever the grammar, the text and the state it
    begins in: no span is empty, every one begins and ends at a place of the line, and no search
    begins anywhere else. -/
theorem highlight_wellFormed (g : Grammar) (text : Text) (entry : LineState) :
    (∀ s ∈ (highlight g text entry).spans, s.WellFormed text) ∧
      Guarded.highlight g text entry = .ok (highlight g text entry) :=
  ⟨fun _ hs => wellFormed_of_mem_spans hs, Guarded.highlight_eq g text entry⟩

end Highlight
