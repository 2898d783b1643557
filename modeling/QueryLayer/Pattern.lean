import QueryLayer.Entries
import QueryLayer.Value.Compare

/-! # Patterns

A language of patterns is read by an engine from outside: it compiles what is written, if that is a
pattern, and tells whether it occurs in a text. Compiling costs more than trying, so a long run of
tests keeps what each source was read as, sources that are no pattern included. A cache that has no
room left is emptied before it keeps the next source.
-/

set_option autoImplicit false

namespace QueryLayer.Pattern

abbrev Test := String → Bool

structure Engine where
  Compiled : Type
  compile : String → Option Compiled
  isMatch : Compiled → Test

namespace Engine

def read (engine : Engine) (source : String) : Option Test :=
  (engine.compile source).map engine.isMatch

/-- Words of letters and digits, which all languages of patterns read as themselves; nothing else is
a pattern here. -/
def words : Engine where
  Compiled := List Char
  compile source := if source.toList.all Char.isAlphanum then some source.toList else none
  isMatch word text := Value.hasInfix word text.toList

end Engine

/-- What sources were read as, the latest one first. -/
structure Cache where
  entries : List (String × Option Test) := []

namespace Cache

def limit : Nat := 256

def test? (read : String → Option Test) (cache : Cache) (source : String) : Option Test × Cache :=
  match Entries.find? source cache.entries with
  | some kept => (kept, cache)
  | none =>
    let others := if cache.entries.length < limit then cache.entries else []
    (read source, ⟨(source, read source) :: others⟩)

def occurs (read : String → Option Test) (cache : Cache) (source text : String) : Bool × Cache :=
  let answer := cache.test? read source
  (answer.1.any fun test => test text, answer.2)

/-- Everything that is kept is what `read` makes of its source. -/
def Faithful (read : String → Option Test) (cache : Cache) : Prop :=
  ∀ source kept, Entries.find? source cache.entries = some kept → kept = read source

theorem faithful_empty (read : String → Option Test) : Faithful read {} := by
  intro source kept h
  exact absurd h (by simp)

theorem Faithful.test?_fst {read : String → Option Test} {cache : Cache}
    (h : Faithful read cache) (source : String) : (cache.test? read source).1 = read source := by
  rw [test?]
  split
  · rename_i kept hkept
    exact h source kept hkept
  · rfl

theorem Faithful.test?_snd {read : String → Option Test} {cache : Cache}
    (h : Faithful read cache) (source : String) : Faithful read (cache.test? read source).2 := by
  rw [test?]
  split
  · exact h
  · intro other kept hkept
    rw [Entries.find?] at hkept
    split at hkept
    · rename_i heq
      exact (Option.some.inj hkept).symm.trans (congrArg read heq.symm)
    · split at hkept
      · exact h other kept hkept
      · exact absurd hkept (by simp)

end Cache

end QueryLayer.Pattern
