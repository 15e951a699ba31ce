import DocView.Store

/-! A store that answers each kind of call from a list written beforehand. -/

namespace DocView

/-- The answers still to be given. -/
structure ScriptedStore where
  /-- The answers to queries of views. -/
  views : List Answer := []
  /-- The answers to readings of documents. -/
  gets : List Answer := []
  /-- The answers to writes of documents. -/
  puts : List Answer := []
deriving DecidableEq

namespace ScriptedStore

/-- The next answer of a list, and the answers behind it. -/
def next : List Answer → Answer × List Answer
  | [] => (.error (.transport "script exhausted"), [])
  | answer :: rest => (answer, rest)

/-- How the store behaves: each kind of call takes the next answer of its list. -/
def answer : Behaviour ScriptedStore := fun store call =>
  match call with
  | .queryView .. => ((next store.views).1, { store with views := (next store.views).2 })
  | .getDocument _ => ((next store.gets).1, { store with gets := (next store.gets).2 })
  | .putDocument .. => ((next store.puts).1, { store with puts := (next store.puts).2 })

end ScriptedStore

end DocView
