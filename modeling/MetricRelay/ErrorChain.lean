/-!
# Chains of causes

An error for people to read has a root cause and, around it, the contexts in which it arose.
-/

namespace MetricRelay

/-- An error text with its causes. -/
structure ErrorChain where
  /-- The contexts, the outermost first. -/
  contexts : List String := []
  root : String
deriving DecidableEq, Repr

namespace ErrorChain

/-- The chain inside one more context. -/
def within (e : ErrorChain) (context : String) : ErrorChain :=
  { e with contexts := context :: e.contexts }

/-- The chain of texts from the root cause outwards, unless there are none. -/
def ofTexts? : List String → Option ErrorChain
  | [] => none
  | root :: contexts => some (contexts.foldl within { root })

/-- All texts, the outermost first. -/
def texts (e : ErrorChain) : List String := e.contexts ++ [e.root]

/-- The outermost text. -/
def text (e : ErrorChain) : String := e.contexts.headD e.root

/-- All texts in one line. -/
def fullText (e : ErrorChain) : String := ": ".intercalate e.texts

end ErrorChain

end MetricRelay
