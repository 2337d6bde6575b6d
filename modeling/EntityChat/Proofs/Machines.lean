import EntityChat.Proofs.Cutting
import EntityChat.Proofs.KindSets
import EntityChat.Proofs.Rules

/-!
Machines that step over kinds of token. Where a machine knows a language and has no dead end, what
may come next behind the beginning of a sentence is just what the machine can step over, and so a
rule that keeps in step with the machine can say exactly what it expected.
-/

namespace EntityChat

/-- The end of input, and nothing else, leads to the last state, and nothing leads on from there. -/
structure Machine (σ : Type) where
  start : σ
  next : σ → Kind → Option σ
  last : σ
  start_ne_last : start ≠ last
  eq_last_iff : ∀ q k r, next q k = some r → (r = last ↔ k = .endOfInput)
  next_last : ∀ k, next last k = none

/-- The beginnings of sentences, whole sentences among them. -/
def Viable (L : List Kind → Prop) (p : List Kind) : Prop := ∃ w, L (p ++ w)

def kinds (ts : List Token) : List Kind := ts.map (·.kind)

theorem kinds_append (ts us : List Token) : kinds (ts ++ us) = kinds ts ++ kinds us :=
  List.map_append

theorem kinds_singleton (t : Token) : kinds [t] = [t.kind] := rfl

/-- The diagnostic names the first token behind which no sentence goes on, and all the kinds with
which one would. -/
def Diagnostic.Exact (L : List Kind → Prop) (ts : List Token) (d : Diagnostic) : Prop :=
  ∃ i, ts[i]? = some d.found ∧ d.position = d.found.position ∧
    Viable L (kinds (ts.take i)) ∧ ¬ Viable L (kinds (ts.take (i + 1))) ∧
    ∀ k, k ∈ d.expected ↔ Viable L (kinds (ts.take i) ++ [k])

namespace Machine

variable {σ : Type} {m : Machine σ} {q r : σ} {k : Kind} {ts : List Token}

def run (m : Machine σ) (q : σ) : List Kind → Option σ
  | [] => some q
  | k :: ks => (m.next q k).bind fun r => m.run r ks

theorem run_append (q : σ) (p w : List Kind) :
    m.run q (p ++ w) = (m.run q p).bind fun r => m.run r w := by
  induction p generalizing q with
  | nil => rfl
  | cons k p ih =>
    simp only [List.cons_append, run, Option.bind_assoc]
    exact congrArg (Option.bind (m.next q k)) (funext ih)

theorem run_singleton (q : σ) (k : Kind) : m.run q [k] = m.next q k := by
  cases h : m.next q k <;> simp [run, h]

theorem run_cons_of_next {ks : List Kind} (h : m.next q k = some r) :
    m.run q (k :: ks) = m.run r ks := by simp [run, h]

theorem run_of_loop (h : m.next q k = some q) {us : List Token} (hus : ∀ u ∈ us, u.kind = k) :
    m.run q (kinds us) = some q := by
  induction us with
  | nil => rfl
  | cons u us ih =>
    obtain ⟨rfl, hus⟩ := List.forall_mem_cons.mp hus
    exact (run_cons_of_next h).trans (ih hus)

theorem snoc_of_run_last (h : m.run m.start (kinds ts) = some m.last) :
    ∃ us z, ts = us ++ [z] ∧ z.kind = .endOfInput := by
  rcases List.eq_nil_or_concat ts with rfl | ⟨us, z, rfl⟩
  · exact absurd (Option.some.inj h) m.start_ne_last
  · rw [List.concat_eq_append, kinds_append, run_append] at h
    obtain ⟨r, -, hr⟩ := Option.bind_eq_some_iff.mp h
    rw [kinds_singleton, run_singleton] at hr
    exact ⟨us, z, List.concat_eq_append, (m.eq_last_iff _ _ _ hr).mp rfl⟩

theorem ne_last (h : m.next q k = some r) : q ≠ m.last := by
  intro hq
  subst hq
  rw [m.next_last] at h
  cases h

theorem kind_ne_of_run (h : m.run q (kinds ts) = some r) (hr : r ≠ m.last) :
    ∀ t ∈ ts, t.kind ≠ .endOfInput := by
  intro t ht hk
  obtain ⟨us, vs, rfl⟩ := List.append_of_mem ht
  rw [kinds_append, run_append] at h
  obtain ⟨p, -, hp⟩ := Option.bind_eq_some_iff.mp h
  obtain ⟨p', hp', hrun⟩ := Option.bind_eq_some_iff.mp hp
  obtain rfl := (m.eq_last_iff _ _ _ hp').mpr hk
  cases vs with
  | nil => exact hr (Option.some.inj hrun).symm
  | cons v vs =>
    obtain ⟨p, hlast, -⟩ := Option.bind_eq_some_iff.mp hrun
    exact ne_last hlast rfl

theorem run_eq_none_of_mem {ks : List Kind} (hk : ∀ r, m.next r k = none) (h : k ∈ ks) :
    m.run q ks = none := by
  obtain ⟨js, is, rfl⟩ := List.append_of_mem h
  rw [run_append]
  cases m.run q js with
  | none => rfl
  | some r => rw [Option.bind_some, run, hk, Option.bind_none]

theorem ended_of_run_last (h : m.run m.start (kinds ts) = some m.last) : Ended ts := by
  obtain ⟨us, z, rfl, hz⟩ := snoc_of_run_last h
  rw [kinds_append, run_append] at h
  obtain ⟨r, hus, hr⟩ := Option.bind_eq_some_iff.mp h
  rw [kinds_singleton, run_singleton] at hr
  exact ⟨us, z, rfl, hz, kind_ne_of_run hus (ne_last hr)⟩

structure Knows (m : Machine σ) (L : List Kind → Prop) : Prop where
  sentence_iff : ∀ ks, L ks ↔ m.run m.start ks = some m.last
  live : ∀ q, ∃ w, m.run q w = some m.last

namespace Knows

variable {L : List Kind → Prop} {p : List Kind}

theorem viable_iff (h : m.Knows L) : Viable L p ↔ ∃ q, m.run m.start p = some q := by
  constructor
  · intro h'
    obtain ⟨w, hw⟩ := h'
    have hrun := (h.sentence_iff _).mp hw
    rw [run_append] at hrun
    obtain ⟨q, hq, -⟩ := Option.bind_eq_some_iff.mp hrun
    exact ⟨q, hq⟩
  · intro h'
    obtain ⟨q, hq⟩ := h'
    obtain ⟨w, hw⟩ := h.live q
    refine ⟨w, (h.sentence_iff _).mpr ?_⟩
    rw [run_append, hq, Option.bind_some, hw]

theorem viable_snoc_iff (h : m.Knows L) (hp : m.run m.start p = some q) :
    Viable L (p ++ [k]) ↔ (m.next q k).isSome = true := by
  rw [h.viable_iff, run_append, hp, Option.bind_some, run_singleton, Option.isSome_iff_exists]

end Knows

structure At (m : Machine σ) (ts : List Token) (q : σ) (s : Reading) : Prop where
  tokens : s.cursor.tokens.toList = ts
  run : m.run m.start (kinds s.behind) = some q

theorem At.took {s t : Reading} {a : Token} (h : m.At ts q s) (ht : Took k s a t)
    (hnext : m.next q k = some r) : m.At ts r t := by
  refine ⟨by rw [ht.tokens, h.tokens], ?_⟩
  rw [ht.behind, kinds_append, run_append, h.run, Option.bind_some, kinds_singleton,
    run_singleton, ht.kind, hnext]

theorem At.index_lt {s : Reading} (h : m.At ts q s) (hts : Ended ts) (hq : q ≠ m.last) :
    s.cursor.index < s.cursor.tokens.size := by
  apply Nat.lt_of_not_le
  intro hle
  apply hq
  obtain ⟨us, z, hus, hz, -⟩ := hts
  have hbehind : s.behind = us ++ [z] := by
    rw [← hus, ← h.tokens]
    exact List.take_of_length_le (by simpa using hle)
  have hrun := h.run
  rw [hbehind, kinds_append, run_append] at hrun
  obtain ⟨r, -, hr⟩ := Option.bind_eq_some_iff.mp hrun
  rw [kinds_singleton, run_singleton, hz] at hr
  exact (m.eq_last_iff _ _ _ hr).mpr rfl

theorem At.behind_of_last {s : Reading} (h : m.At ts m.last s) (hts : Ended ts) :
    s.behind = ts := by
  obtain ⟨vs, y, hbehind, hy⟩ := snoc_of_run_last h.run
  obtain ⟨us, z, rfl, -, hus⟩ := hts
  have hall := s.behind_append_ahead
  rw [h.tokens, hbehind] at hall
  rcases List.eq_nil_or_concat s.cursor.ahead with hnil | ⟨ws, x, hws⟩
  · rw [hbehind, ← hall, hnil, List.append_nil]
  · rw [hws, List.concat_eq_append, ← List.append_assoc] at hall
    obtain ⟨rfl, -⟩ := List.append_inj' hall rfl
    exact absurd hy (hus y (by simp))

theorem at_ofTokens (m : Machine σ) (ts : List Token) :
    m.At ts m.start ⟨.ofTokens ts, []⟩ := ⟨by simp [Cursor.ofTokens], rfl⟩

/-- The diagnostic arose in step with the machine: at a state with which `W` puts the kinds that it
names, and where the machine cannot step over the current token. -/
def Halts (m : Machine σ) (W : σ → List Kind → Prop) (ts : List Token) (d : Diagnostic)
    (s : Reading) : Prop :=
  ∃ q ks, m.At ts q s ∧ q ≠ m.last ∧ d = s.unexpected ks ∧ W q ks ∧
    m.next q s.cursor.current.kind = none

theorem halts_of {W : σ → List Kind → Prop} {s : Reading} {ks : List Kind} (hs : m.At ts q s)
    (hq : q ≠ m.last) (hks : W q ks)
    (hmiss : ∀ k, (m.next q k).isSome = true → s.cursor.isAt k = false) :
    m.Halts W ts (s.unexpected ks) s := by
  refine ⟨q, ks, hs, hq, rfl, hks, Option.not_isSome_iff_eq_none.mp fun h => ?_⟩
  exact Cursor.isAt_eq_false_iff.mp (hmiss _ h) rfl

/-- The diagnostic arose in step with the machine: it names the kinds over which the machine can
step, and the current token has none of them. -/
def Refuses (m : Machine σ) (ts : List Token) (d : Diagnostic) (s : Reading) : Prop :=
  ∃ q ks, m.At ts q s ∧ q ≠ m.last ∧ d = s.unexpected ks ∧
    (∀ k, k ∈ ks ↔ (m.next q k).isSome = true) ∧ m.next q s.cursor.current.kind = none

def Steps (m : Machine σ) (q : σ) (ks : List Kind) : Prop :=
  ∀ k, k ∈ ks ↔ (m.next q k).isSome = true

theorem Steps.congr (q : σ) (ks ks' : List Kind) (h : m.Steps q ks) (h' : m.Steps q ks')
    (k : Kind) : k ∈ ks ↔ k ∈ ks' := (h k).trans (h' k).symm

theorem halts_steps_iff {d : Diagnostic} {s : Reading} :
    m.Halts m.Steps ts d s ↔ m.Refuses ts d s := Iff.rfl

theorem refuses_of {s : Reading} {ks : List Kind} (hs : m.At ts q s) (hq : q ≠ m.last)
    (hks : ∀ k, k ∈ ks ↔ (m.next q k).isSome = true) (hmiss : ∀ k ∈ ks, s.cursor.isAt k = false) :
    m.Refuses ts (s.unexpected ks) s :=
  halts_steps_iff.mp (halts_of hs hq hks fun k hk => hmiss k ((hks k).mpr hk))

theorem ensures_take {s : Reading} {E : Diagnostic → Reading → Prop} (hts : Ended ts)
    (hs : m.At ts q s) (hnext : m.next q k = some r) (hat : s.cursor.isAt k = true) :
    (Rule.expect k).Ensures s (fun a t => Took k s a t ∧ m.At ts r t) E := by
  refine Rule.ensures_expect (fun _ => hs.index_lt hts (ne_last hnext))
    (fun _ a t ht => ⟨ht, hs.took ht hnext⟩) fun hmiss => ?_
  rw [hat] at hmiss
  cases hmiss

theorem ensures_expect_halts {W : σ → List Kind → Prop} {s : Reading} (hts : Ended ts)
    (hs : m.At ts q s) (hnext : ∀ j, m.next q j = if j = k then some r else none) (hW : W q [k]) :
    (Rule.expect k).Ensures s (fun a t => Took k s a t ∧ m.At ts r t) (m.Halts W ts) := by
  have hk : m.next q k = some r := by rw [hnext, if_pos rfl]
  refine Rule.ensures_expect (fun _ => hs.index_lt hts (ne_last hk))
    (fun _ a t ht => ⟨ht, hs.took ht hk⟩) fun hmiss => halts_of hs (ne_last hk) hW fun j hj => ?_
  rw [hnext] at hj
  split at hj
  · next hjk => rwa [hjk]
  · cases hj

theorem ensures_expect {s : Reading} (hts : Ended ts) (hs : m.At ts q s)
    (hnext : ∀ j, m.next q j = if j = k then some r else none) :
    (Rule.expect k).Ensures s (fun a t => Took k s a t ∧ m.At ts r t) (m.Refuses ts) := by
  refine ensures_expect_halts (W := m.Steps) hts hs hnext fun j => ?_
  rw [hnext, List.mem_singleton]
  split
  · next hj => simp [hj]
  · next hj => simp [hj]

theorem At.skip {s : Reading} (hs : m.At ts q s) (hk : k ≠ .endOfInput)
    (hnext : m.next q k = some q) :
    m.At ts q { s with cursor := s.cursor.skip k } ∧ (s.cursor.skip k).isAt k = false ∧
      ∃ us, (∀ u ∈ us, u.kind = k) ∧
        Reading.behind { s with cursor := s.cursor.skip k } = s.behind ++ us := by
  obtain ⟨htokens, hat, us, hus, hbehind⟩ := s.cursor.skip_spec hk
  refine ⟨⟨by rw [htokens, hs.tokens], ?_⟩, hat, us, hus, hbehind⟩
  simp only [Reading.behind] at hbehind ⊢
  rw [hbehind, kinds_append, run_append]
  change (m.run m.start (kinds s.behind)).bind _ = _
  rw [hs.run, Option.bind_some, run_of_loop hnext hus]

theorem ensures_skip {s : Reading} {E : Diagnostic → Reading → Prop} (hs : m.At ts q s)
    (hk : k ≠ .endOfInput) (hnext : m.next q k = some q) :
    (Rule.skip k).Ensures s (fun _ t => m.At ts q t ∧ t.extension = s.extension ∧
      t.cursor.isAt k = false ∧ ∃ us, (∀ u ∈ us, u.kind = k) ∧ t.behind = s.behind ++ us) E := by
  obtain ⟨ht, hat, hus⟩ := hs.skip hk hnext
  exact Rule.ensures_skip.mpr ⟨ht, rfl, hat, hus⟩

/-- The machine steps over the tokens up to one over which it cannot, and the diagnostic is the one
that belongs there. -/
def Rejects (m : Machine σ) (W : σ → List Kind → Prop) (ts : List Token) (d : Diagnostic) : Prop :=
  ∃ us u vs q ks, ts = us ++ u :: vs ∧ m.run m.start (kinds us) = some q ∧
    m.next q u.kind = none ∧ W q ks ∧ d = .unexpected u ks

namespace Rejects

variable {W : σ → List Kind → Prop} {d d' : Diagnostic}

theorem run_cons_eq_none {us vs : List Token} {u : Token} (hrun : m.run m.start (kinds us) = some q)
    (hnone : m.next q u.kind = none) : m.run m.start (kinds (us ++ u :: vs)) = none := by
  rw [kinds_append, run_append, hrun, Option.bind_some]
  simp [kinds, run, hnone]

theorem run_eq_none (h : m.Rejects W ts d) : m.run m.start (kinds ts) = none := by
  obtain ⟨us, u, vs, q, ks, rfl, hrun, hnone, -, -⟩ := h
  exact run_cons_eq_none hrun hnone

theorem found_mem (h : m.Rejects W ts d) : d.position = d.found.position ∧ d.found ∈ ts := by
  obtain ⟨us, u, vs, q, ks, rfl, -, -, -, rfl⟩ := h
  exact ⟨rfl, List.mem_append_right _ List.mem_cons_self⟩

theorem settled (h : m.Rejects W ts d) : ∃ i, ts[i]? = some d.found ∧
    (∃ q, m.run m.start (kinds (ts.take i)) = some q) ∧
    m.run m.start (kinds (ts.take (i + 1))) = none ∧
    ∀ us : List Token, us.take (i + 1) = ts.take (i + 1) → m.Rejects W us d := by
  obtain ⟨us, u, vs, q, ks, rfl, hrun, hnone, hks, rfl⟩ := h
  have htake : (us ++ u :: vs).take (us.length + 1) = us ++ [u] := List.take_length_add_append 1
  refine ⟨us.length, by simp [Diagnostic.unexpected], ⟨q, by simpa using hrun⟩, ?_, ?_⟩
  · rw [htake]
    exact run_cons_eq_none hrun hnone
  · intro ws hws
    have hcut : ws.take (us.length + 1) ++ ws.drop (us.length + 1) = ws := List.take_append_drop _ _
    rw [hws, htake, List.append_assoc, List.singleton_append] at hcut
    exact ⟨us, u, ws.drop (us.length + 1), q, ks, hcut.symm, hrun, hnone, hks, rfl⟩

theorem replace {us vs : List Token} (hus : m.run m.start (kinds us) = some q)
    (hvs : m.run m.start (kinds vs) = some q) (h : m.Rejects W (us ++ ts) d) :
    m.Rejects W (vs ++ ts) d := by
  obtain ⟨ws, u, xs, r, ks, hplace, hrun, hnone, hks, rfl⟩ := h
  rcases List.append_eq_append_iff.mp hplace with ⟨ys, rfl, hts⟩ | ⟨ys, rfl, hts⟩
  · refine ⟨vs ++ ys, u, xs, r, ks, by rw [hts, List.append_assoc], ?_, hnone, hks, rfl⟩
    rw [kinds_append, run_append, hus] at hrun
    rw [kinds_append, run_append, hvs, hrun]
  · cases ys with
    | nil =>
      rw [List.append_nil, hrun] at hus
      obtain rfl := Option.some.inj hus
      exact ⟨vs, u, xs, r, ks, congrArg (vs ++ ·) hts.symm, hvs, hnone, hks, rfl⟩
    | cons y ys =>
      -- the machine would have stuck in the tokens in front, which it steps over
      obtain ⟨rfl, -⟩ := List.cons.inj hts
      rw [run_cons_eq_none hrun hnone] at hus
      cases hus

theorem append_left {us : List Token} (hus : m.run m.start (kinds us) = some m.start)
    (h : m.Rejects W ts d) : m.Rejects W (us ++ ts) d := by
  have h : m.Rejects W ([] ++ ts) d := h
  exact h.replace rfl hus

theorem eq_nil_of_run_append {p v v' w : List Kind} {j : Kind} (hrun : m.run m.start p = some q)
    (hnone : m.next q k = none) (hrun' : m.run m.start (p ++ w) = some r)
    (heq : k :: v = w ++ j :: v') : w = [] := by
  cases w with
  | nil => rfl
  | cons i w =>
    obtain ⟨rfl, -⟩ := List.cons.inj heq
    rw [run_append, hrun, Option.bind_some] at hrun'
    simp [run, hnone] at hrun'

theorem same_place {us : List Token} (h : m.Rejects W ts d) (h' : m.Rejects W us d')
    (hkinds : kinds ts = kinds us) : ∃ (i : Nat) (q : σ) (ks ks' : List Kind),
      ts[i]? = some d.found ∧ us[i]? = some d'.found ∧ W q ks ∧ W q ks' ∧
      d = .unexpected d.found ks ∧ d' = .unexpected d'.found ks' := by
  obtain ⟨vs, u, ws, q, ks, rfl, hrun, hnone, hks, rfl⟩ := h
  obtain ⟨vs', u', ws', q', ks', rfl, hrun', hnone', hks', rfl⟩ := h'
  rw [kinds_append, kinds_append] at hkinds
  have hplace : kinds vs = kinds vs' := by
    -- in one list the machine steps over all of it, so in the other it sticks no earlier
    rcases List.append_eq_append_iff.mp hkinds with ⟨w, hw, heq⟩ | ⟨w, hw, heq⟩
    · rw [hw] at hrun' ⊢
      rw [eq_nil_of_run_append hrun hnone hrun' heq, List.append_nil]
    · rw [hw] at hrun ⊢
      rw [eq_nil_of_run_append hrun' hnone' hrun heq, List.append_nil]
  have hlength : vs.length = vs'.length := by
    simpa [kinds] using congrArg List.length hplace
  rw [hplace, hrun'] at hrun
  obtain rfl := Option.some.inj hrun
  refine ⟨vs.length, q', ks, ks', ?_, ?_, hks, hks', rfl, rfl⟩
  · simp [Diagnostic.unexpected]
  · simp [Diagnostic.unexpected, hlength]

theorem unique (hW : ∀ q ks ks', W q ks → W q ks' → ∀ k, k ∈ ks ↔ k ∈ ks') (h : m.Rejects W ts d)
    (h' : m.Rejects W ts d') : d = d' := by
  obtain ⟨i, q, ks, ks', hfound, hfound', hks, hks', hd, hd'⟩ := h.same_place h' rfl
  rw [hd, hd', Option.some.inj (hfound.symm.trans hfound')]
  simp only [Diagnostic.unexpected, KindSet.ofList_congr (hW q ks ks' hks hks')]

end Rejects

theorem Halts.rejects {W : σ → List Kind → Prop} {d : Diagnostic} {s : Reading} (hts : Ended ts)
    (h : m.Halts W ts d s) : m.Rejects W ts d := by
  obtain ⟨q, ks, hs, hq, rfl, hks, hnone⟩ := h
  have hlt := hs.index_lt hts hq
  have hahead : s.cursor.ahead = s.cursor.current :: s.cursor.ahead.tail := by
    have hdrop := List.drop_eq_getElem_cons (l := s.cursor.tokens.toList) (by simpa using hlt)
    simpa [Cursor.ahead, Cursor.current, Cursor.tokenAt, hlt] using hdrop
  refine ⟨s.behind, s.cursor.current, s.cursor.ahead.tail, q, ks, ?_, hs.run, hnone, hks, rfl⟩
  rw [← hahead, s.behind_append_ahead, hs.tokens]

theorem Refuses.rejects {d : Diagnostic} {s : Reading} (hts : Ended ts) (h : m.Refuses ts d s) :
    m.Rejects m.Steps ts d := (halts_steps_iff.mpr h).rejects hts

theorem Refuses.place {d : Diagnostic} {s : Reading} (hts : Ended ts) (h : m.Refuses ts d s) :
    ∃ i q, ts[i]? = some d.found ∧ d.position = d.found.position ∧
      m.run m.start (kinds (ts.take i)) = some q ∧
      m.run m.start (kinds (ts.take (i + 1))) = none ∧
      ∀ k, k ∈ d.expected ↔ (m.next q k).isSome = true := by
  obtain ⟨us, u, vs, q, ks, rfl, hrun, hnone, hks, rfl⟩ := h.rejects hts
  refine ⟨us.length, q, by simp [Diagnostic.unexpected], rfl, by simpa using hrun, ?_, fun k => ?_⟩
  · rw [List.take_length_add_append]
    exact Rejects.run_cons_eq_none hrun hnone
  · rw [← hks k, ← KindSet.mem_ofList]
    rfl

theorem Refuses.exact {L : List Kind → Prop} {d : Diagnostic} {s : Reading} (hm : m.Knows L)
    (hts : Ended ts) (h : m.Refuses ts d s) : d.Exact L ts := by
  obtain ⟨i, q, hfound, hposition, hrun, hnone, hexpected⟩ := h.place hts
  refine ⟨i, hfound, hposition, hm.viable_iff.mpr ⟨q, hrun⟩, fun hv => ?_, fun k => ?_⟩
  · obtain ⟨r, hr⟩ := hm.viable_iff.mp hv
    rw [hnone] at hr
    cases hr
  · rw [hexpected, hm.viable_snoc_iff hrun]

end Machine

end EntityChat
