import EntityChat.Diagnostic
import EntityChat.Identifier
import EntityChat.Token.Scanner
import EntityChat.Token.Cursor

/-!
Rules for reading tokens. A rule takes a reading to a later one and gives a value or a diagnostic;
when it fails, the reading stands at the token that it could not use. No rule moves backwards.
-/

namespace EntityChat

/-- How far a source has been read, and which kinds could still extend the item read last. -/
structure Reading where
  cursor : Cursor
  extension : List Kind
deriving DecidableEq

inductive Grammar
  | entity
  | chat
deriving DecidableEq

namespace Reading

def ofSource (g : Grammar) (source : String) : Reading :=
  match g with
  | .entity => ⟨.withoutNewlines (tokenize source), []⟩
  | .chat => ⟨.ofTokens (tokenize source), []⟩

def unexpected (s : Reading) (expected : List Kind) : Diagnostic :=
  .unexpected s.cursor.current expected

end Reading

structure Rule (α : Type) where
  run : Reading → Except Diagnostic α × Reading
  leads : ∀ s : Reading, s.cursor.Leads (run s).2.cursor

namespace Rule

variable {α β : Type}

protected def pure (a : α) : Rule α := ⟨fun s => (.ok a, s), fun s => .refl s.cursor⟩

protected def bind (r : Rule α) (f : α → Rule β) : Rule β where
  run s :=
    match r.run s with
    | (.ok a, t) => (f a).run t
    | (.error d, t) => (.error d, t)
  leads s := by
    have h := r.leads s
    split
    · next a t heq => rw [heq] at h; exact h.trans ((f a).leads t)
    · next d t heq => rw [heq] at h; exact h

instance : Monad Rule where
  pure := Rule.pure
  bind := Rule.bind

def fail (expected : List Kind) : Rule α :=
  ⟨fun s => (.error (s.unexpected expected), s), fun s => .refl s.cursor⟩

def check (k : Kind) : Rule Bool := ⟨fun s => (.ok (s.cursor.isAt k), s), fun s => .refl s.cursor⟩

def expect (k : Kind) : Rule Token where
  run s :=
    match s.cursor.eat? k with
    | some (t, c) => (.ok t, { s with cursor := c })
    | none => (.error (s.unexpected [k]), s)
  leads s := by
    split
    · next heq => exact Cursor.leads_eat heq
    · exact .refl s.cursor

def identifier : Rule Identifier := do
  let t ← expect .identifier
  return ⟨t.lexeme, t.position⟩

/-- Notes that the item just read could go on with a token of the kind. -/
def extensible (k : Kind) : Rule Unit :=
  ⟨fun s => (.ok (), { s with extension := s.extension ++ [k] }), fun s => .refl s.cursor⟩

end Rule

end EntityChat
