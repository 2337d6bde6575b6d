import EntityChat.Token.Cursor
import Mathlib.Data.List.Basic
import Mathlib.Logic.Function.Basic

/-!
Sessions on cursors. Several cursors stand on lists of tokens and are asked in turn, each what it
shows, to move, or to go back to a mark, which may come from any of them. What a cursor answers
depends on what it was asked itself. It hands out its tokens in order and then the end of input
without end, and behind a mark of its own it answers as it did when the mark was taken. What it
shows ahead is what it hands out later, up to the last place that a machine word counts.
-/

namespace EntityChat

namespace Cursor

inductive Operation
  | peek
  | peekNth (n : UInt64)
  | advance
  | check (k : Kind)
  | eat (k : Kind)
  | atEnd
  | mark
  | reset (m : Mark)

/-- A token that is `taken` was moved past, one that is `seen` was not. The program may have
`stopped` at an operation, which then changes nothing. -/
inductive Answer
  | seen (t : Token)
  | taken (t : Token)
  | stopped
  | refused
  | truth (b : Bool)
  | marked (m : Mark)
  | done
deriving DecidableEq

def Answer.taken? : Answer → Option Token
  | taken t => some t
  | _ => none

def Answer.token? : Answer → Option Token
  | seen t => some t
  | taken t => some t
  | _ => none

def ask (c : Cursor) (w : Overflow) : Operation → Answer × Cursor
  | .peek => (.seen c.current, c)
  | .peekNth n => ((c.lookahead w n).elim .stopped .seen, c)
  | .advance => (.taken c.current, c.advance)
  | .check k => (.truth (c.isAt k), c)
  | .eat k =>
    match c.eat? k with
    | some (t, d) => (.taken t, d)
    | none => (.refused, c)
  | .atEnd => (.truth c.atEnd, c)
  | .mark => (.marked c.mark, c)
  | .reset m => (.done, c.reset m)

def answers (c : Cursor) (w : Overflow) : List Operation → List Answer
  | [] => []
  | o :: os => (c.ask w o).1 :: (c.ask w o).2.answers w os

def after (c : Cursor) (w : Overflow) : List Operation → Cursor
  | [] => c
  | o :: os => (c.ask w o).2.after w os

def coming (c : Cursor) (n : Nat) : Token := c.tokenAt (c.index + n)

def outlook (c : Cursor) (n : Nat) : List Token := (List.range n).map c.coming

variable {c d : Cursor} {w : Overflow}

theorem after_append (c : Cursor) (w : Overflow) (os ps : List Operation) :
    c.after w (os ++ ps) = (c.after w os).after w ps := by
  induction os generalizing c with
  | nil => rfl
  | cons o os ih => exact ih (c.ask w o).2

theorem ask_cases (c : Cursor) (w : Overflow) (o : Operation) :
    (∃ m, o = .reset m ∧ c.ask w o = (.done, c.reset m)) ∨
      c.ask w o = (.taken c.current, c.advance) ∨
      (c.ask w o).2 = c ∧ (c.ask w o).1.taken? = none := by
  cases o with
  | reset m => exact .inl ⟨m, rfl, rfl⟩
  | advance => exact .inr (.inl rfl)
  | eat k =>
    by_cases hk : c.isAt k = true
    · exact .inr (.inl (by simp [ask, eat?, hk]))
    · exact .inr (.inr (by simp [ask, eat?, hk, Answer.taken?]))
  | peekNth n =>
    refine .inr (.inr ⟨rfl, ?_⟩)
    rw [ask]
    cases c.lookahead w n <;> rfl
  | peek => exact .inr (.inr ⟨rfl, rfl⟩)
  | check k => exact .inr (.inr ⟨rfl, rfl⟩)
  | atEnd => exact .inr (.inr ⟨rfl, rfl⟩)
  | mark => exact .inr (.inr ⟨rfl, rfl⟩)

theorem ask_eat_of_refused {k : Kind} (h : (c.ask w (.eat k)).1 = .refused) :
    (c.ask w (.eat k)).2 = c := by
  rcases ask_cases c w (.eat k) with ⟨m, hm, -⟩ | htaken | ⟨hsame, -⟩
  · cases hm
  · rw [htaken] at h
    cases h
  · exact hsame

/-! What an operation keeps, and so what any number of them keep. -/

theorem tokens_ask (c : Cursor) (w : Overflow) (o : Operation) :
    (c.ask w o).2.tokens = c.tokens := by
  rcases ask_cases c w o with ⟨m, -, h⟩ | h | ⟨h, -⟩
  · rw [h]
    rfl
  · rw [h]
    exact c.leads_advance.1
  · rw [h]

theorem tokens_after (c : Cursor) (w : Overflow) (os : List Operation) :
    (c.after w os).tokens = c.tokens := by
  induction os generalizing c with
  | nil => rfl
  | cons o os ih => exact (ih (c.ask w o).2).trans (c.tokens_ask w o)

theorem index_ask_le (h : c.index ≤ c.tokens.size) (o : Operation) :
    (c.ask w o).2.index ≤ c.tokens.size := by
  rcases ask_cases c w o with ⟨m, -, heq⟩ | heq | ⟨heq, -⟩
  · rw [heq]
    exact Nat.min_le_right _ _
  · rw [heq]
    exact index_advance_le h
  · rwa [heq]

theorem index_after_le (h : c.index ≤ c.tokens.size) (os : List Operation) :
    (c.after w os).index ≤ c.tokens.size := by
  induction os generalizing c with
  | nil => exact h
  | cons o os ih =>
    have hstep : (c.ask w o).2.index ≤ c.tokens.size := index_ask_le h o
    rw [← c.tokens_ask w o] at hstep ⊢
    exact ih hstep

theorem finish_congr (h : d.tokens = c.tokens) : d.finish = c.finish := by
  unfold finish
  rw [h]

theorem reset_mark (h : d.tokens = c.tokens) (hc : c.index ≤ c.tokens.size) :
    d.reset c.mark = c := by
  cases c
  simp_all [reset, mark]

theorem coming_advance (c : Cursor) (n : Nat) : c.advance.coming n = c.coming (n + 1) := by
  rw [coming, tokenAt_ahead, coming, tokenAt_ahead, ahead_advance, finish_congr c.leads_advance.1]
  simp [List.getD_eq_getElem?_getD]

theorem outlook_succ (c : Cursor) (n : Nat) :
    c.outlook (n + 1) = c.current :: c.advance.outlook n := by
  simp only [outlook, List.range_succ_eq_map, List.map_cons, List.map_map]
  apply congrArg
  apply List.map_congr_left
  intro j _
  exact (coming_advance c j).symm

theorem answers_advance (c : Cursor) (w : Overflow) (n : Nat) :
    c.answers w (List.replicate n .advance) = (c.outlook n).map .taken ∧
      (c.after w (List.replicate n .advance)).current = c.coming n := by
  induction n generalizing c with
  | zero => exact ⟨rfl, rfl⟩
  | succ n ih =>
    obtain ⟨hanswers, hcurrent⟩ := ih c.advance
    rw [List.replicate_succ, outlook_succ, ← coming_advance]
    exact ⟨congrArg (Answer.taken c.current :: ·) hanswers, hcurrent⟩

theorem ask_peekNth {n : UInt64} (h : c.index + n.toNat < UInt64.size) :
    (c.ask w (.peekNth n)).1 = .seen (c.coming n.toNat) := by
  rw [ask, lookahead_of_lt h]
  rfl

theorem seen_ahead {n : UInt64} (h : c.index + n.toNat < UInt64.size) :
    (List.range n.toNat).map (fun j => (c.ask w (.peekNth (.ofNat j))).1.token?) =
      (c.outlook n.toNat).map some := by
  rw [outlook, List.map_map]
  apply List.map_congr_left
  intro j hj
  have hlt : j < n.toNat := List.mem_range.mp hj
  have hword : (UInt64.ofNat j).toNat = j := UInt64.toNat_ofNat_of_lt' (by omega)
  rw [ask_peekNth (by rw [hword]; omega), hword]
  rfl

theorem seen_past {n : UInt64} {ts : List Token} (htokens : c.tokens.toList = ts)
    (hwithin : c.index ≤ ts.length) (hlength : ts.length ≤ UInt64.size)
    (h : UInt64.size ≤ c.index + n.toNat) :
    ∃ j t, j + UInt64.size = c.index + n.toNat ∧ j < c.index ∧ ts[j]? = some t ∧
      (c.ask .wraps (.peekNth n)).1 = .seen t := by
  obtain ⟨j, hj, hlt, hlook⟩ := lookahead_wraps h (Nat.le_trans hwithin hlength)
  have hin : j < c.tokens.size := by
    rw [← Array.length_toList, htokens]
    exact Nat.lt_of_lt_of_le hlt hwithin
  refine ⟨j, c.tokens[j], hj, hlt, ?_, ?_⟩
  · rw [← htokens, Array.getElem?_toList, Array.getElem?_eq_getElem hin]
  · rw [ask, hlook, tokenAt, Array.getElem?_eq_getElem hin]
    rfl

theorem taken_answers (c : Cursor) (w : Overflow) {os : List Operation}
    (h : ∀ m, .reset m ∉ os) :
    (c.answers w os).filterMap Answer.taken? =
        c.outlook ((c.answers w os).filterMap Answer.taken?).length ∧
      ∀ n, (c.after w os).coming n =
        c.coming (n + ((c.answers w os).filterMap Answer.taken?).length) := by
  induction os generalizing c with
  | nil => exact ⟨rfl, fun _ => rfl⟩
  | cons o os ih =>
    have hos : ∀ m, .reset m ∉ os := fun m hm => h m (List.mem_cons_of_mem _ hm)
    rcases ask_cases c w o with ⟨m, rfl, -⟩ | heq | ⟨heq, hnone⟩
    · exact absurd List.mem_cons_self (h m)
    · obtain ⟨htaken, hahead⟩ := ih c.advance hos
      have hfirst : (c.answers w (o :: os)).filterMap Answer.taken? =
          c.current :: (c.advance.answers w os).filterMap Answer.taken? := by
        simp [answers, heq, Answer.taken?]
      rw [hfirst, List.length_cons, outlook_succ, ← htaken]
      refine ⟨rfl, fun n => ?_⟩
      rw [after, heq, hahead, coming_advance]
      rfl
    · have hfirst : (c.answers w (o :: os)).filterMap Answer.taken? =
          (c.answers w os).filterMap Answer.taken? := by
        rw [answers, List.filterMap_cons_none hnone, heq]
      rw [hfirst, after, heq]
      exact ih c hos

theorem outlook_isPrefix (c : Cursor) (n : Nat) :
    c.outlook n <+: c.ahead ++ List.replicate n c.finish := by
  rw [List.prefix_iff_getElem?]
  intro j hj
  have hlt : j < n := by simpa [outlook] using hj
  have hget : (c.outlook n)[j] = c.ahead.getD j c.finish := by
    simp [outlook, coming, tokenAt_ahead]
  rw [hget, List.getD_eq_getElem?_getD]
  by_cases hin : j < c.ahead.length
  · simp [List.getElem?_append_left, hin]
  · have hout : c.ahead.length ≤ j := Nat.le_of_not_lt hin
    rw [List.getElem?_append_right hout, List.getElem?_eq_none hout, List.getElem?_replicate]
    rw [if_pos (by omega)]
    rfl

theorem tokenAt_mem (c : Cursor) (i : Nat) :
    c.tokenAt i ∈ c.tokens.toList ∨ c.tokenAt i = c.finish := by
  unfold tokenAt
  cases h : c.tokens[i]? with
  | none => exact .inr rfl
  | some t => exact .inl (Array.mem_toList_iff.mpr (Array.mem_of_getElem? h))

theorem exists_tokenAt_of_ask {o : Operation} {t : Token} (h : (c.ask w o).1.token? = some t) :
    ∃ i, c.tokenAt i = t := by
  cases o with
  | peek => exact ⟨c.index, Option.some.inj h⟩
  | peekNth n =>
    rw [ask, lookahead] at h
    cases hsum : w.sum? c.index n.toNat with
    | none =>
      rw [hsum] at h
      cases h
    | some i =>
      rw [hsum] at h
      exact ⟨i, Option.some.inj h⟩
  | advance => exact ⟨c.index, Option.some.inj h⟩
  | eat k =>
    by_cases hk : c.isAt k = true
    · exact ⟨c.index, by simpa [ask, eat?, hk, Answer.token?, current] using h⟩
    · simp [ask, eat?, hk, Answer.token?] at h
  | check k => cases h
  | atEnd => cases h
  | mark => cases h
  | reset m => cases h

theorem token_of_mem_answers {os : List Operation} {a : Answer} {t : Token}
    (ha : a ∈ c.answers w os) (ht : a.token? = some t) : t ∈ c.tokens.toList ∨ t = c.finish := by
  induction os generalizing c with
  | nil => cases ha
  | cons o os ih =>
    rcases List.mem_cons.mp ha with rfl | ha
    · obtain ⟨i, rfl⟩ := exists_tokenAt_of_ask ht
      exact c.tokenAt_mem i
    · have h := ih ha
      rwa [finish_congr (c.tokens_ask w o), tokens_ask] at h

end Cursor

inductive Feed
  | whole (ts : List Token)
  | unbroken (ts : List Token)

namespace Feed

def cursor : Feed → Cursor
  | whole ts => .ofTokens ts
  | unbroken ts => .withoutNewlines ts

def tokens : Feed → List Token
  | whole ts => ts
  | unbroken ts => ts.filter (·.kind ≠ .newline)

variable {w : Overflow}

theorem cursor_eq (f : Feed) : f.cursor = .ofTokens f.tokens := by
  cases f <;> rfl

theorem ahead_cursor (f : Feed) : f.cursor.ahead = f.tokens := by
  rw [cursor_eq]
  rfl

theorem tokens_after (f : Feed) (os : List Cursor.Operation) :
    (f.cursor.after w os).tokens.toList = f.tokens := by
  rw [Cursor.tokens_after, cursor_eq]
  rfl

theorem index_after_le (f : Feed) (os : List Cursor.Operation) :
    (f.cursor.after w os).index ≤ f.tokens.length := by
  have hstart : f.cursor.index ≤ f.cursor.tokens.size := by
    rw [cursor_eq]
    exact Nat.zero_le _
  have h : (f.cursor.after w os).index ≤ f.cursor.tokens.size := Cursor.index_after_le hstart os
  rw [cursor_eq] at h
  rwa [cursor_eq]

theorem inOrder (f : Feed) {os : List Cursor.Operation} (h : ∀ m, .reset m ∉ os) :
    (∃ n, (f.cursor.answers w os).filterMap Cursor.Answer.taken? <+:
      f.tokens ++ List.replicate n f.cursor.finish) ∧
    ∀ n, (f.cursor.after w os).coming n =
      f.tokens.getD (n + ((f.cursor.answers w os).filterMap Cursor.Answer.taken?).length)
        f.cursor.finish := by
  obtain ⟨htaken, hahead⟩ := f.cursor.taken_answers w h
  constructor
  · rw [htaken, ← ahead_cursor]
    exact ⟨_, f.cursor.outlook_isPrefix _⟩
  · intro n
    rw [hahead, Cursor.coming, Cursor.tokenAt_ahead, ahead_cursor]

theorem finish_eq (f : Feed) {z : Token} (h : f.tokens.getLast? = some z)
    (hz : z.kind = .endOfInput) : f.cursor.finish = z := by
  have hback : f.cursor.tokens.back? = some z := by
    rw [← h, cursor_eq]
    exact List.back?_toArray _
  simp [Cursor.finish, hback, hz]

theorem kind_ne_newline (ts : List Token) {os : List Cursor.Operation} {a : Cursor.Answer}
    {t : Token} (ha : a ∈ (unbroken ts).cursor.answers w os) (ht : a.token? = some t) :
    t.kind ≠ .newline := by
  rcases Cursor.token_of_mem_answers ha ht with hmem | rfl
  · have htokens : (unbroken ts).cursor.tokens.toList = ts.filter (·.kind ≠ .newline) := rfl
    rw [htokens] at hmem
    simpa using (List.mem_filter.mp hmem).2
  · rw [Cursor.kind_finish]
    decide

end Feed

namespace Cursors

open Cursor

variable {ι α : Type} [DecidableEq ι] {w : Overflow}

def own (i : ι) (xs : List (ι × α)) : List α :=
  (xs.filter fun x => x.1 = i).map Prod.snd

def step (w : Overflow) (cs : ι → Cursor) (call : ι × Operation) : ι → Cursor :=
  Function.update cs call.1 ((cs call.1).ask w call.2).2

def after (w : Overflow) (cs : ι → Cursor) : List (ι × Operation) → ι → Cursor
  | [] => cs
  | call :: calls => after w (step w cs call) calls

def trace (w : Overflow) (cs : ι → Cursor) : List (ι × Operation) → List (ι × Answer)
  | [] => []
  | call :: calls => (call.1, ((cs call.1).ask w call.2).1) :: trace w (step w cs call) calls

theorem own_cons (i : ι) (x : ι × α) (xs : List (ι × α)) :
    own i (x :: xs) = if x.1 = i then x.2 :: own i xs else own i xs := by
  by_cases hx : x.1 = i
  · simp [own, hx]
  · simp [own, hx]

theorem mem_own {i : ι} {x : α} {xs : List (ι × α)} : x ∈ own i xs ↔ (i, x) ∈ xs := by
  simp [own]

theorem own_append (i : ι) (xs ys : List (ι × α)) : own i (xs ++ ys) = own i xs ++ own i ys := by
  simp [own]

theorem own_replicate (i : ι) (x : α) (n : Nat) :
    own i (List.replicate n (i, x)) = List.replicate n x := by
  simp [own]

theorem step_apply (cs : ι → Cursor) (call : ι × Operation) (i : ι) :
    step w cs call i = if call.1 = i then ((cs i).ask w call.2).2 else cs i := by
  by_cases hi : call.1 = i
  · subst hi
    simp [step]
  · rw [step, Function.update_of_ne (Ne.symm hi), if_neg hi]

/-- In a session each cursor does as if it were alone. -/
theorem own_trace (cs : ι → Cursor) (calls : List (ι × Operation)) (i : ι) :
    own i (trace w cs calls) = (cs i).answers w (own i calls) ∧
      after w cs calls i = (cs i).after w (own i calls) := by
  induction calls generalizing cs with
  | nil => exact ⟨rfl, rfl⟩
  | cons call calls ih =>
    obtain ⟨hanswers, hafter⟩ := ih (step w cs call)
    rw [trace, own_cons, own_cons, Cursors.after, hanswers, hafter, step_apply]
    by_cases hi : call.1 = i
    · subst hi
      simp [answers, Cursor.after]
    · simp [hi]

theorem trace_replicate (cs : ι → Cursor) (i : ι) (o : Operation) (n : Nat) :
    trace w cs (List.replicate n (i, o)) =
      ((cs i).answers w (List.replicate n o)).map fun a => (i, a) := by
  induction n generalizing cs with
  | zero => rfl
  | succ n ih =>
    have hstep : step w cs (i, o) i = ((cs i).ask w o).2 := by simp [step_apply]
    rw [List.replicate_succ, trace, ih, hstep]
    rfl

theorem handed_advance (s : ι → Cursor) (i : ι) (n : Nat) :
    trace w s (List.replicate n (i, .advance)) =
        ((s i).outlook n).map (fun t => (i, .taken t)) ∧
      (after w s (List.replicate n (i, .advance)) i).current = (s i).coming n := by
  obtain ⟨hanswers, hcurrent⟩ := (s i).answers_advance w n
  rw [trace_replicate, hanswers, List.map_map, (own_trace _ _ i).2, own_replicate]
  exact ⟨rfl, hcurrent⟩

def opened (feeds : ι → Feed) : ι → Cursor := fun i => (feeds i).cursor

def handed (i : ι) (answers : List (ι × Answer)) : List Token :=
  (own i answers).filterMap Answer.taken?

/-- What holds of cursors `s` that were opened on the feeds and answered the calls. What a cursor
shows ahead is what it hands out, also behind the end of input, as far as a machine word counts the
places. From there on the program stops, or the cursor shows what it has gone past. -/
structure Orderly (w : Overflow) (feeds : ι → Feed) (calls : List (ι × Operation))
    (s : ι → Cursor) : Prop where
  tokens : ∀ i, (s i).tokens.toList = (feeds i).tokens
  within : ∀ i, (s i).index ≤ (feeds i).tokens.length
  foreseen : ∀ i (n : UInt64), (s i).index + n.toNat < UInt64.size →
    (own i (trace w s (List.replicate n.toNat (i, .advance)))).map Answer.token? =
        (List.range n.toNat).map (fun j => ((s i).ask w (.peekNth (.ofNat j))).1.token?) ∧
      ((s i).ask w (.peekNth n)).1 =
        .seen (after w s (List.replicate n.toNat (i, .advance)) i).current
  beyond : ∀ i (n : UInt64), UInt64.size ≤ (s i).index + n.toNat →
    (w = .stops → ((s i).ask w (.peekNth n)).1 = .stopped) ∧
    (w = .wraps → (feeds i).tokens.length ≤ UInt64.size →
      ∃ j t, j + UInt64.size = (s i).index + n.toNat ∧ j < (s i).index ∧
        (feeds i).tokens[j]? = some t ∧ ((s i).ask w (.peekNth n)).1 = .seen t)
  handsOut : ∀ i n, trace w s (List.replicate n (i, .advance)) =
      ((s i).outlook n).map (fun t => (i, .taken t)) ∧
    (after w s (List.replicate n (i, .advance)) i).current = (s i).coming n
  inOrder : ∀ i, (∀ m, (i, .reset m) ∉ calls) →
    (∃ n, handed i (trace w (opened feeds) calls) <+:
      (feeds i).tokens ++ List.replicate n (feeds i).cursor.finish) ∧
    ∀ n, (s i).coming n =
      (feeds i).tokens.getD (n + (handed i (trace w (opened feeds) calls)).length)
        (feeds i).cursor.finish
  finish : ∀ i, (feeds i).cursor.finish.kind = .endOfInput ∧
    ∀ z, (feeds i).tokens.getLast? = some z → z.kind = .endOfInput → (feeds i).cursor.finish = z
  rewinds : ∀ i m, ((s i).ask w .mark).1 = .marked m → ∀ between later,
    own i (trace w (after w s (between ++ [(i, .reset m)])) later) = own i (trace w s later)
  refused : ∀ i k, ((s i).ask w (.eat k)).1 = .refused → step w s (i, .eat k) = s
  same : trace w (fun i => .ofTokens (feeds i).tokens) calls = trace w (opened feeds) calls
  unbroken : ∀ i ts, feeds i = .unbroken ts → ∀ a ∈ own i (trace w (opened feeds) calls),
    ∀ t, a.token? = some t → t.kind ≠ .newline

theorem foreseen_advance (s : ι → Cursor) (i : ι) {n : UInt64}
    (h : (s i).index + n.toNat < UInt64.size) :
    (own i (trace w s (List.replicate n.toNat (i, .advance)))).map Answer.token? =
        (List.range n.toNat).map (fun j => ((s i).ask w (.peekNth (.ofNat j))).1.token?) ∧
      ((s i).ask w (.peekNth n)).1 =
        .seen (after w s (List.replicate n.toNat (i, .advance)) i).current := by
  constructor
  · rw [(own_trace _ _ i).1, own_replicate, ((s i).answers_advance w _).1, seen_ahead h,
      List.map_map]
    rfl
  · rw [(handed_advance s i _).2]
    exact ask_peekNth h

theorem after_reset {s : ι → Cursor} {i : ι} {m : Mark} (hs : (s i).index ≤ (s i).tokens.size)
    (hm : ((s i).ask w .mark).1 = .marked m) (between : List (ι × Operation)) :
    after w s (between ++ [(i, .reset m)]) i = s i := by
  obtain rfl : (s i).mark = m := Answer.marked.inj hm
  have hown : own i [(i, Operation.reset (s i).mark)] = [.reset (s i).mark] :=
    own_replicate i _ 1
  rw [(own_trace _ _ _).2, own_append, Cursor.after_append, hown]
  exact reset_mark ((s i).tokens_after w _) hs

example (t : Token) (h : t.kind = .comma) :
    trace w (fun long : Bool => .ofTokens (if long then [t, t] else [t]))
      [(true, .advance), (true, .advance), (true, .mark), (false, .reset ⟨2⟩), (false, .mark),
        (false, .peek)] =
      [(true, .taken t), (true, .taken t), (true, .marked ⟨2⟩), (false, .done),
        (false, .marked ⟨1⟩), (false, .seen (.finish t.position))] := by
  simp [trace, step, ask, ofTokens, current, tokenAt, advance, mark, Cursor.reset, finish, h]

end Cursors

end EntityChat
