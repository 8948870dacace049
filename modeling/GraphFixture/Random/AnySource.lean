import GraphFixture.Random.Xoshiro

/-!
# A choice of word sources

A source that is picked while the program runs: seeded, scripted or an
arithmetic progression.  Each has finitely many states, so there is a number of
words after which nothing new comes.  An accepted word that has not come by
then never comes, and the search for one may stop.
-/

namespace GraphFixture

/-- A word source of one of the known kinds. -/
inductive AnySource where
  | seeded (state : Xoshiro)
  | scripted (script : Script)
  | stepped (progression : Progression)
  deriving DecidableEq, Repr

namespace AnySource

/-- Every source draws as the one that it holds. -/
instance : WordSource AnySource where
  draw
    | .seeded state =>
        let (word, rest) := WordSource.draw state
        (word, .seeded rest)
    | .scripted script =>
        let (word, rest) := WordSource.draw script
        (word, .scripted rest)
    | .stepped progression =>
        let (word, rest) := WordSource.draw progression
        (word, .stepped rest)

/-- The number of words after which a source gives no word that it has not
given before. -/
def patience : AnySource → Nat
  | .seeded _ => Xoshiro.stateCount
  | .scripted script => script.words.length + 1
  | .stepped _ => UInt64.size

end AnySource
end GraphFixture
