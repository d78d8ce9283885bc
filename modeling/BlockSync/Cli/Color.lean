namespace BlockSync.Cli

/-!
# Colours of the output

A wish for colours or against them decides. Without one, the environment can force them or forbid
them, in this order; otherwise a terminal has colours and anything else has none.
-/

/-- The wish for colours. -/
inductive ColorMode where
  | auto
  | always
  | never
  deriving Repr, DecidableEq

namespace ColorMode

/-- All wishes. -/
def modes : List ColorMode := [auto, always, never]

/-- The word for a wish. -/
def text : ColorMode → String
  | auto => "auto"
  | always => "always"
  | never => "never"

/-- The wish that a word stands for. -/
def ofText? (word : String) : Option ColorMode :=
  modes.find? fun mode => mode.text = word

end ColorMode

/-- Named values from outside the program. -/
abbrev Environment := List (String × String)

/-- Whether the environment forces colours: by any text but an empty one and a zero. -/
def Environment.forcesColor (environment : Environment) : Bool :=
  match environment.lookup "FORCE_COLOR" with
  | none => false
  | some value => value ≠ "" && value ≠ "0"

/-- Whether the environment forbids colours: by any text at all. -/
def Environment.forbidsColor (environment : Environment) : Bool :=
  (environment.lookup "NO_COLOR").isSome

/-- Whether output is coloured. -/
def ColorMode.isColored
    (mode : ColorMode)
    (environment : Environment)
    (terminal : Bool) :
    Bool :=
  match mode with
  | .always => true
  | .never => false
  | .auto =>
      environment.forcesColor || (!environment.forbidsColor && terminal)

end BlockSync.Cli
