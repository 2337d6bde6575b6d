import EntityChat.Entity
import EntityChat.Proofs.Phrases

/-!
The grammar of declarations, and the machine that knows it. A declaration is

    create entity NAME { (MEMBER (, MEMBER)* ,?)? }

and a member is `NAME : TYPE`, with `( unique+ )` behind it or not. A sentence has one tree.
-/

namespace EntityChat

inductive Member.Phrase : List Token → Member → Prop
  | plain {n c t : Token} : n.kind = .identifier → c.kind = .colon → t.kind = .identifier →
      Phrase [n, c, t] ⟨n.identifier, .named t.lexeme, .empty⟩
  | restricted {n c t o r : Token} {us : List Token} : n.kind = .identifier → c.kind = .colon →
      t.kind = .identifier → o.kind = .openParen → us ≠ [] → (∀ u ∈ us, u.kind = .uniqueWord) →
      r.kind = .closeParen →
      Phrase ([n, c, t, o] ++ us ++ [r])
        ⟨n.identifier, .named t.lexeme, Constraints.empty.insert .unique⟩

/-- The members of a declaration: none, or a list with commas between and perhaps one behind. -/
inductive Member.ListPhrase : List Token → List Member → Prop
  | empty : ListPhrase [] []
  | listed {u w ms} : Separated (Single .comma) Member.Phrase u ms → (w = [] ∨ Single .comma w) →
      ListPhrase (u ++ w) ms

/-- The tokens derive the declaration. -/
inductive Entity.Sentence : List Token → Entity → Prop
  | mk {a b n o r z : Token} {us : List Token} {ms : List Member} : a.kind = .createWord →
      b.kind = .entityWord → n.kind = .identifier → o.kind = .openBrace → Member.ListPhrase us ms →
      r.kind = .closeBrace → z.kind = .endOfInput →
      Sentence ([a, b, n, o] ++ us ++ [r, z]) ⟨n.identifier, ms⟩

def Entity.Grammatical (ks : List Kind) : Prop := ∃ ts e, Entity.Sentence ts e ∧ kinds ts = ks

namespace Member

theorem Phrase.begins {u : List Token} {m : Member} (h : Phrase u m) :
    ∃ n w, u = n :: w ∧ n.kind = .identifier := by
  cases h with
  | plain hn _ _ => exact ⟨_, _, rfl, hn⟩
  | restricted hn _ _ _ _ _ _ => exact ⟨_, _, rfl, hn⟩

theorem ListPhrase.cons {u v : List Token} {c : Token} {m : Member} {ms : List Member}
    (hu : Phrase u m) (hc : c.kind = .comma) (hv : ListPhrase v ms) :
    ListPhrase (u ++ [c] ++ v) (m :: ms) := by
  have hs : Single .comma [c] := ⟨c, rfl, hc⟩
  cases hv with
  | empty => simpa using ListPhrase.listed (.one hu) (.inr hs)
  | @listed v w ms hv hw =>
    rw [← List.append_assoc]
    exact .listed (.more hu hs hv) hw

theorem ListPhrase.single {u : List Token} {m : Member} (hu : Phrase u m) : ListPhrase u [m] := by
  simpa using ListPhrase.listed (.one hu) (.inl rfl)

end Member

inductive Stage
  | start
  | created
  | announced
  | named
  | listing
  | memberNamed
  | typing
  | typed
  | constraining
  | constrained
  | settled
  | closed
  | finished
deriving DecidableEq

namespace Stage

def next : Stage → Kind → Option Stage
  | start, .createWord => some created
  | created, .entityWord => some announced
  | announced, .identifier => some named
  | named, .openBrace => some listing
  | listing, .identifier => some memberNamed
  | listing, .closeBrace => some closed
  | memberNamed, .colon => some typing
  | typing, .identifier => some typed
  | typed, .openParen => some constraining
  | typed, .comma => some listing
  | typed, .closeBrace => some closed
  | constraining, .uniqueWord => some constrained
  | constrained, .uniqueWord => some constrained
  | constrained, .closeParen => some settled
  | settled, .comma => some listing
  | settled, .closeBrace => some closed
  | closed, .endOfInput => some finished
  | _, _ => none

def machine : Machine Stage where
  start := start
  next := next
  last := finished
  start_ne_last := by decide
  eq_last_iff q k r h := by cases q <;> cases k <;> cases h <;> decide
  next_last _ := rfl

def way : Stage → List Kind
  | start => [.createWord, .entityWord, .identifier, .openBrace, .closeBrace, .endOfInput]
  | created => [.entityWord, .identifier, .openBrace, .closeBrace, .endOfInput]
  | announced => [.identifier, .openBrace, .closeBrace, .endOfInput]
  | named => [.openBrace, .closeBrace, .endOfInput]
  | memberNamed => [.colon, .identifier, .closeBrace, .endOfInput]
  | typing => [.identifier, .closeBrace, .endOfInput]
  | constraining => [.uniqueWord, .closeParen, .closeBrace, .endOfInput]
  | constrained => [.closeParen, .closeBrace, .endOfInput]
  | listing | typed | settled => [.closeBrace, .endOfInput]
  | closed => [.endOfInput]
  | finished => []

theorem run_way (q : Stage) : machine.run q q.way = some .finished := by
  cases q <;> rfl

def Rests (q : Stage) : Prop := q.next .comma = some listing ∧ q.next .closeBrace = some closed

theorem rests_typed : Rests typed := ⟨rfl, rfl⟩

theorem rests_settled : Rests settled := ⟨rfl, rfl⟩

end Stage

open Stage

theorem Member.Phrase.run {u : List Token} {m : Member} (h : Member.Phrase u m) :
    ∃ q, Rests q ∧ machine.run listing (kinds u) = some q := by
  cases h with
  | plain hn hc ht =>
    refine ⟨typed, rests_typed, ?_⟩
    simp [kinds, Machine.run, machine, next, hn, hc, ht]
  | @restricted n c t o r us hn hc ht ho hne hus hr =>
    refine ⟨settled, rests_settled, ?_⟩
    obtain ⟨u, us, rfl⟩ := List.exists_cons_of_ne_nil hne
    obtain ⟨hu, hus⟩ := List.forall_mem_cons.mp hus
    have hloop : machine.run constrained (kinds us) = some constrained :=
      Machine.run_of_loop rfl hus
    have hfront : machine.run listing (kinds ([n, c, t, o] ++ [u])) = some constrained := by
      simp [kinds, Machine.run, machine, next, hn, hc, ht, ho, hu]
    rw [← List.singleton_append (l := us), ← List.append_assoc, List.append_assoc, kinds_append,
      Machine.run_append, hfront, Option.bind_some, kinds_append, Machine.run_append, hloop,
      Option.bind_some, kinds_singleton, Machine.run_singleton, hr]
    rfl

theorem Member.ListPhrase.run {u : List Token} {ms : List Member} (h : Member.ListPhrase u ms) :
    ∃ q, q.next .closeBrace = some closed ∧ machine.run listing (kinds u) = some q := by
  cases h with
  | empty => exact ⟨listing, rfl, rfl⟩
  | @listed u w ms hu hw =>
    obtain ⟨q, hq, hrun⟩ := hu.run (R := Rests) (fun _ _ h => h.run)
      fun s r hs hr => hs.run.trans hr.1
    rw [kinds_append, Machine.run_append, hrun, Option.bind_some]
    rcases hw with rfl | hw
    · exact ⟨q, hq.2, rfl⟩
    · exact ⟨listing, rfl, hw.run.trans hq.1⟩

theorem Entity.Sentence.run {ts : List Token} {e : Entity} (h : Entity.Sentence ts e) :
    machine.run start (kinds ts) = some finished := by
  obtain @⟨a, b, n, o, r, z, us, ms, ha, hb, hn, ho, hus, hr, hz⟩ := h
  obtain ⟨q, hq, hrun⟩ := hus.run
  have hfront : machine.run start (kinds [a, b, n, o]) = some listing := by
    simp [kinds, Machine.run, machine, next, ha, hb, hn, ho]
  have hback : machine.run q (kinds [r, z]) = some finished := by
    simp only [kinds, List.map_cons, List.map_nil, hr, hz]
    rw [Machine.run_cons_of_next hq]
    rfl
  rw [kinds_append, kinds_append, Machine.run_append, Machine.run_append, hfront,
    Option.bind_some, hrun, Option.bind_some, hback]

def Member.Follow (v : List Token) : Prop := ∀ t ∈ v.head?, t.kind ≠ .openParen

def Member.Tail (x : List Token) : Prop :=
  ∃ w r y, x = w ++ r :: y ∧ (w = [] ∨ Single .comma w) ∧ r.kind = .closeBrace

theorem Member.legible :
    Legible (Single .comma) Member.Phrase Member.Follow Member.Tail where
  phrase := by
    intro u u' v v' a a' hu hu' hv hv' heq
    cases hu with
    | plain _ _ _ =>
      cases hu' with
      | plain _ _ _ =>
        simp only [List.cons_append, List.nil_append, List.cons.injEq] at heq
        obtain ⟨rfl, rfl, rfl, rfl⟩ := heq
        exact ⟨rfl, rfl, rfl⟩
      | restricted _ _ _ ho' _ _ _ =>
        simp only [List.cons_append, List.nil_append, List.cons.injEq] at heq
        obtain ⟨-, -, -, rfl⟩ := heq
        exact absurd ho' (hv _ rfl)
    | restricted _ _ _ ho _ hus hr =>
      cases hu' with
      | plain _ _ _ =>
        simp only [List.cons_append, List.nil_append, List.cons.injEq] at heq
        obtain ⟨-, -, -, rfl⟩ := heq
        exact absurd ho (hv' _ rfl)
      | restricted _ _ _ _ _ hus' hr' =>
        simp only [List.append_assoc, List.cons_append, List.nil_append, List.cons.injEq] at heq
        obtain ⟨rfl, rfl, rfl, rfl, htail⟩ := heq
        obtain ⟨rfl, rfl, rfl⟩ := append_cons_inj hus hus' (by simp [hr]) (by simp [hr']) htail
        exact ⟨rfl, rfl, rfl⟩
  separator := by
    intro s s' u u' v v' a a' hs hs' _ _ heq
    obtain ⟨c, rfl, -⟩ := hs
    obtain ⟨c', rfl, -⟩ := hs'
    obtain ⟨rfl, h⟩ := List.cons.inj heq
    exact ⟨rfl, h⟩
  follow := by
    intro s v hs t ht
    obtain ⟨c, rfl, hc⟩ := hs
    obtain rfl : c = t := by simpa using ht
    simp [hc]
  tail := by
    intro x hx t ht
    obtain ⟨w, r, y, rfl, hw | ⟨c, hw, hc⟩, hr⟩ := hx
    · obtain rfl : r = t := by simpa [hw] using ht
      simp [hr]
    · obtain rfl : c = t := by simpa [hw] using ht
      simp [hc]
  stop := by
    intro s u v a hs hu hx
    obtain ⟨c, rfl, hc⟩ := hs
    obtain ⟨w, r, y, heq, hw | ⟨c', rfl, -⟩, hr⟩ := hx
    · subst hw
      obtain ⟨rfl, -⟩ := List.cons.inj heq
      rw [hc] at hr
      cases hr
    · obtain ⟨n, w, rfl, hn⟩ := hu.begins
      obtain ⟨-, h⟩ := List.cons.inj heq
      obtain ⟨rfl, -⟩ := List.cons.inj h
      rw [hn] at hr
      cases hr

theorem Member.separated_ne_brace {u w y z : List Token} {r : Token} {ms : List Member}
    (h : Separated (Single .comma) Member.Phrase u ms) (hr : r.kind = .closeBrace) :
    r :: y ≠ u ++ w ++ z := by
  obtain ⟨v, m, x, hv, rfl⟩ := h.begins
  obtain ⟨n, _, rfl, hn⟩ := hv.begins
  intro heq
  obtain ⟨rfl, -⟩ := List.cons.inj heq
  rw [hn] at hr
  cases hr

theorem Member.ListPhrase.unique {u u' y y' : List Token} {r r' : Token} {ms ms' : List Member}
    (h : Member.ListPhrase u ms) (h' : Member.ListPhrase u' ms') (hr : r.kind = .closeBrace)
    (hr' : r'.kind = .closeBrace) (heq : u ++ r :: y = u' ++ r' :: y') : ms = ms' := by
  cases h with
  | empty =>
    cases h' with
    | empty => rfl
    | listed hu' hw' => exact absurd heq (Member.separated_ne_brace hu' hr)
  | @listed u w ms hu hw =>
    cases h' with
    | empty => exact absurd heq.symm (Member.separated_ne_brace hu hr')
    | @listed u' w' ms' hu' hw' =>
      rw [List.append_assoc, List.append_assoc] at heq
      exact (hu.unique legible hu' ⟨w, r, y, rfl, hw, hr⟩ ⟨w', r', y', rfl, hw', hr'⟩ heq).2.1

theorem Entity.Sentence.unique {ts : List Token} {e e' : Entity} (h : Entity.Sentence ts e)
    (h' : Entity.Sentence ts e') : e = e' := by
  obtain @⟨a, b, n, o, r, z, us, ms, -, -, -, -, hus, hr, -⟩ := h
  generalize hts : [a, b, n, o] ++ us ++ [r, z] = ts at h'
  obtain @⟨a', b', n', o', r', z', us', ms', -, -, -, -, hus', hr', -⟩ := h'
  simp only [List.cons_append, List.nil_append, List.cons.injEq] at hts
  obtain ⟨-, -, rfl, -, heq⟩ := hts
  rw [hus.unique hus' hr hr' heq]

end EntityChat
