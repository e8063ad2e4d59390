import NodeGen.Layout

/-! Emission of laid-out text, step by step. An emitter holds the text so far and the depth of the
next line; a block raises the depth for its body and lowers it again. -/

set_option autoImplicit false

namespace NodeGen

/-- A text under way. -/
structure Emitter where
  unit : String
  /-- How often the unit goes before the next line. -/
  depth : Nat
  text : String
  deriving DecidableEq, Repr

namespace Emitter

def start (unit : String) : Emitter :=
  ⟨unit, 0, ""⟩

def add (emitter : Emitter) (text : String) : Emitter :=
  { emitter with text := emitter.text ++ text }

def line (emitter : Emitter) (text : String) : Emitter :=
  if text.isEmpty then emitter.add "\n"
  else
    ((emitter.add (String.join (List.replicate emitter.depth emitter.unit))).add text).add "\n"

def enter (emitter : Emitter) : Emitter :=
  { emitter with depth := emitter.depth + 1 }

def leave (emitter : Emitter) : Emitter :=
  { emitter with depth := emitter.depth - 1 }

mutual

def perform (emitter : Emitter) : Step → Emitter
  | .line text => emitter.line text
  | .blank => emitter.add "\n"
  | .indented body => (emitter.enter.run body).leave
  | .block opening closing body =>
    (((emitter.line opening).enter.run body).leave).line closing

def run (emitter : Emitter) : List Step → Emitter
  | [] => emitter
  | step :: rest => (emitter.perform step).run rest

end

end Emitter

end NodeGen
