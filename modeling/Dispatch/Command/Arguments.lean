/-!
Commands and their arguments. Options begin with dashes and may stand anywhere before a pair of
dashes; the other arguments are operands. Main statement: a command of which nothing is asked has
exactly the settings that it begins with.
-/

namespace Dispatch

inductive Effect (σ : Type) where
  | switch (set : σ → σ)
  | value (letter? default? : Option String) (set : String → σ → Option σ)

structure CommandOption (σ : Type) where
  name : String
  purpose : String
  effect : Effect σ

structure Operand (σ : Type) where
  name : String
  purpose : String
  set : String → σ → σ

structure Usage (σ : Type) where
  purpose : String
  initial : σ
  options : List (CommandOption σ)
  operands : List (Operand σ)

inductive Interruption where
  | helpWanted
  | misuse
  deriving DecidableEq

inductive Argument where
  | separator
  | long (name : String) (attached? : Option String)
  | short (letter : String) (attached? : Option String)
  | operand (text : String)
  deriving DecidableEq

namespace Argument

def ofString (s : String) : Argument :=
  match s.toList with
  | ['-', '-'] => .separator
  | '-' :: '-' :: rest =>
    let name := rest.takeWhile (· != '=')
    match rest.drop name.length with
    | [] => .long (String.ofList name) none
    | _ :: value => .long (String.ofList name) (some (String.ofList value))
  | '-' :: letter :: rest =>
    match rest with
    | [] => .short (String.singleton letter) none
    | '=' :: value => .short (String.singleton letter) (some (String.ofList value))
    | value => .short (String.singleton letter) (some (String.ofList value))
  | _ => .operand s

end Argument

namespace CommandOption

variable {σ : Type}

def letter? (o : CommandOption σ) : Option String :=
  match o.effect with
  | .switch _ => none
  | .value letter? _ _ => letter?

end CommandOption

structure Settled (σ : Type) where
  settings : σ
  used : List String := []
  missing : List (Operand σ)

namespace Settled

variable {σ : Type}

def useOption (r : Settled σ) (name : String) (set : σ → Option σ) :
    Except Interruption (Settled σ) :=
  if r.used.contains name then .error .misuse
  else
    match set r.settings with
    | some s => .ok { r with settings := s, used := name :: r.used }
    | none => .error .misuse

def useOperand (r : Settled σ) (text : String) : Except Interruption (Settled σ) :=
  match r.missing with
  | o :: rest => .ok { r with settings := o.set text r.settings, missing := rest }
  | [] => .error .misuse

end Settled

namespace Usage

variable {σ : Type}

def option? (u : Usage σ) : Argument → Except Interruption (CommandOption σ × Option String)
  | .long name attached? =>
    match u.options.find? (·.name == name) with
    | some o => .ok (o, attached?)
    | none => .error (if name == "help" && attached?.isNone then .helpWanted else .misuse)
  | .short letter attached? =>
    match u.options.find? (·.letter? == some letter) with
    | some o => .ok (o, attached?)
    | none => .error (if letter == "h" then .helpWanted else .misuse)
  | _ => .error .misuse

/-- Reads arguments from left to right. The value of an option that has none attached is the next
argument, if that has not the form of an option. -/
def readAll (u : Usage σ) : List String → Settled σ → Except Interruption (Settled σ)
  | [], r => .ok r
  | text :: rest, r =>
    match Argument.ofString text with
    | .separator => rest.foldlM Settled.useOperand r
    | .operand text => do u.readAll rest (← r.useOperand text)
    | argument => do
      match ← u.option? argument with
      | (⟨name, _, .switch set⟩, none) => u.readAll rest (← r.useOption name (some ∘ set))
      | (⟨_, _, .switch _⟩, some _) => .error .misuse
      | (⟨name, _, .value _ _ set⟩, some value) => u.readAll rest (← r.useOption name (set value))
      | (⟨name, _, .value _ _ set⟩, none) =>
        match rest with
        | [] => .error .misuse
        | next :: rest =>
          match Argument.ofString next with
          | .operand value => u.readAll rest (← r.useOption name (set value))
          | _ => .error .misuse

def read (u : Usage σ) (arguments : List String) : Except Interruption σ := do
  let r ← u.readAll arguments ⟨u.initial, [], u.operands⟩
  if r.missing.isEmpty then return r.settings else .error .misuse

def placeholder (name : String) : String := "<" ++ name.map Char.toUpper ++ ">"

def optionRow (o : CommandOption σ) : String × String :=
  match o.effect with
  | .switch _ => ("    --" ++ o.name, o.purpose)
  | .value letter? default? _ =>
    (((letter?.map fun l => "-" ++ l ++ ", ").getD "    ") ++ "--" ++ o.name ++ " " ++
        placeholder o.name,
      o.purpose ++ (default?.map fun d => " [default: " ++ d ++ "]").getD "")

def rowsUnder (title : String) (rows : List (String × String)) : List String :=
  let width := rows.foldl (fun w row => max w row.1.length) 0
  "" :: (title ++ ":") :: rows.map fun (left, right) =>
    "  " ++ left ++ String.ofList (List.replicate (width - left.length + 2) ' ') ++ right

def help (u : Usage σ) (name : String) : List String :=
  let operands := u.operands.map fun o => (placeholder o.name, o.purpose)
  [u.purpose, "", " ".intercalate (("Usage: " ++ name) :: "[OPTIONS]" :: operands.map (·.1))] ++
    (if operands.isEmpty then [] else rowsUnder "Arguments" operands) ++
    rowsUnder "Options" (u.options.map optionRow ++ [("-h, --help", "Print help")])

end Usage

end Dispatch
