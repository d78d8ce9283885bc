import BlockSync.Fragment.Catalogue

namespace BlockSync

/-!
# The registry of fragments

Fragments are kept under their names. A fragment can be registered once, and only with a name and
an anchor.
-/

/-- A fragment that may still lack an anchor. -/
structure FragmentDraft where
  kind : String
  name : String
  description : String
  tag : String
  anchor : Option Anchor
  style : CommentStyle
  payload : Option Template

/-- Why a fragment was not registered or not found. -/
inductive RegistryError where
  | unnamed (kind : String)
  | noAnchor (name : String)
  | taken (name : String)
  | unknown (name : String) (known : List String)
  deriving Repr, DecidableEq

/-- The message of a registry failure; known names are listed in order. -/
def RegistryError.message : RegistryError → String
  | .unnamed kind => "Fragment class " ++ kind ++ " does not define a name."
  | .noAnchor name => "Fragment '" ++ name ++ "' does not define an anchor rule."
  | .taken name => "Fragment '" ++ name ++ "' is already registered."
  | .unknown name known =>
      let hint :=
        if known.isEmpty then ""
        else " (known: " ++ ", ".intercalate (known.mergeSort (· ≤ ·)) ++ ")"
      "Unknown fragment: '" ++ name ++ "'" ++ hint

/-- The registered fragments, in the order of their registration. -/
structure Registry where
  fragments : List Fragment

namespace Registry

/-- The registry of the shipped fragments. -/
def shipped : Registry := ⟨Catalogue.fragments⟩

/-- The registered names, sorted. -/
def names (registry : Registry) : List String :=
  (registry.fragments.map (·.name)).mergeSort (· ≤ ·)

/-- The fragment with a name. -/
def get (registry : Registry) (name : String) : Except RegistryError Fragment :=
  match registry.fragments.find? (·.name = name) with
  | some fragment => .ok fragment
  | none => .error (.unknown name (registry.fragments.map (·.name)))

/-- Registers a fragment that has a name of its own and an anchor. -/
def register (registry : Registry) (draft : FragmentDraft) : Except RegistryError Registry :=
  if draft.name.isEmpty then
    .error (.unnamed draft.kind)
  else
    match draft.anchor with
    | none => .error (.noAnchor draft.name)
    | some anchor =>
        if registry.fragments.any (·.name = draft.name) then
          .error (.taken draft.name)
        else
          .ok ⟨registry.fragments ++ [{
            kind := draft.kind
            name := draft.name
            description := draft.description
            tag := draft.tag
            anchor := anchor
            style := draft.style
            required := []
            defaults := []
            valueKeys := []
            payload := draft.payload }]⟩

/-- The registered fragments, sorted by name. -/
def sorted (registry : Registry) : List Fragment :=
  registry.fragments.mergeSort fun a b => a.name ≤ b.name

end Registry

end BlockSync
