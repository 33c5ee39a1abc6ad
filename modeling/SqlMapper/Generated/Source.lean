import SqlMapper.Generated.Code
import SqlMapper.Generated.Layout
import SqlMapper.Text.Quoted

/-!
# Generated source

The source of generated functions.  A function takes the parameter as `param` and what else it needs
for lookups and marks as `cx`; it writes to `sql` and collects bound values in `params`.
-/

namespace SqlMapper.Generated

variable {α : Type}

def Access.source (access : Access) (target : String) : String :=
  let method := if access.counts then "count_or_member" else "member"
  s!"cx.{method}({target}, {Text.quoted access.name})"

/-- What a path begins with, given the names of variables. -/
def Origin.source (name : α → String) : Origin α → String
  | .parameter member => member.source "param"
  | .variable target => s!"Some({name target}.clone())"

def literalSource : Literal → String
  | .null => "Value::Null"
  | .bool value => s!"Value::Bool({value})"
  | .int value => s!"Value::Int({value.toInt})"
  | .decimal value => s!"Value::decimal({value.units}, {value.scale})"
  | .string text => s!"Value::from({Text.quoted text})"

def ValueCode.source (name : α → String) : ValueCode α → String
  | .constant literal => literalSource literal
  | .read origin path =>
    let steps := path.map fun access => ".and_then(|v| " ++ access.source "&v" ++ ")"
    origin.source name ++ String.join steps ++ ".unwrap_or_default()"

/-- An expression for what is bound to a name. -/
def BindCode.source (name : α → String) : BindCode α → String
  | .value code => code.source name
  | .concat parts =>
    let texts := parts.map fun part => s!"stringify(&{part.source name})"
    "Value::String([" ++ ", ".intercalate texts ++ "].concat())"
  | .null => "Value::Null"

def ConditionCode.source (name : α → String) : ConditionCode α → String
  | .truthy value => s!"truthy(&{value.source name})"
  | .compare value op literal =>
    s!"compare(&{value.source name}, CompareOp::{op.name}, &{literalSource literal})"
  | .never => "false"

def TestCode.source (name : α → String) (test : TestCode α) : String :=
  match test.conditions.map (·.source name) with
  | [condition] => condition
  | conditions =>
    let joint := match test.junction with
      | .all => " && "
      | .any => " || "
    s!"({joint.intercalate conditions})"

/-- The name of the variables of a role. -/
def Role.source : Role → String
  | .bind => "bind"
  | .collection => "coll"
  | .items => "items"
  | .counter => "i"
  | .item => "item"
  | .index => "index"
  | .clause .whereClause => "where"
  | .clause .setClause => "set"

def Variable.source (target : Variable) : String :=
  s!"__{target.role.source}{target.number}"

def Buffer.source : Buffer → String
  | .output => "sql"
  | .side body => body.source

/-- The function that mends the body of a clause. -/
def trimSource : Clause → String
  | .whereClause => "trim_where_body"
  | .setClause => "trim_set_body"

/-- A line that writes text. -/
def pushLine (buffer : Buffer) (argument : String) : Line :=
  .plain s!"{buffer.source}.push_str({argument});"

/-- The text behind what opens a block. -/
def openBrace : String := " \x7b"

def openLine (header : String) : Line :=
  .opening (header ++ openBrace)

def closeLine : Line :=
  .closing "\x7d"

mutual

def Code.lines (statement : String) : Code → List Line
  | .push buffer text => [pushLine buffer (Text.quoted text)]
  | .pushMark buffer value =>
    [pushLine buffer s!"&cx.bind(&mut params, {value.source Variable.source})"]
  | .pushTrusted buffer value => [pushLine buffer s!"&stringify(&{value.source Variable.source})"]
  | .pushGuarded buffer parameter value =>
    let names := s!"{Text.quoted statement}, {Text.quoted parameter}"
    [pushLine buffer s!"&guard_identifier({names}, &{value.source Variable.source})?"]
  | .pushBody buffer body => [pushLine buffer body.source]
  | .define target value => [.plain s!"let {target.source} = {value.source Variable.source};"]
  | .defineIndex target counter => [.plain s!"let {target.source} = Value::from({counter.source});"]
  | .openBody body => [.plain s!"let mut {body.source} = String::new();"]
  | .trimBody kind body => [.plain s!"let {body.source} = {trimSource kind}(&{body.source});"]
  | .block inner => .opening "\x7b" :: Code.linesOfAll statement inner ++ [closeLine]
  | .branch [] none => []
  | .branch [] (some fallback) =>
    .opening "\x7b" :: Code.linesOfAll statement fallback ++ [closeLine]
  | .branch ((test, inner) :: others) none =>
    openLine s!"if {test.source Variable.source}" :: Code.linesOfAll statement inner
      ++ Code.linesOfOthers statement others ++ [closeLine]
  | .branch ((test, inner) :: others) (some fallback) =>
    openLine s!"if {test.source Variable.source}" :: Code.linesOfAll statement inner
      ++ Code.linesOfOthers statement others
      ++ .reopening ("\x7d else" ++ openBrace) :: Code.linesOfAll statement fallback ++ [closeLine]
  | .ifNonempty body inner =>
    openLine s!"if !{body.source}.is_empty()" :: Code.linesOfAll statement inner ++ [closeLine]
  | .ifList items collection inner =>
    openLine s!"if let Some({items.source}) = items(&{collection.source})"
      :: Code.linesOfAll statement inner ++ [closeLine]
  | .forEach counter item items inner =>
    openLine s!"for ({counter.source}, {item.source}) in {items.source}.iter().enumerate()"
      :: Code.linesOfAll statement inner ++ [closeLine]
  | .ifLater counter inner =>
    openLine s!"if {counter.source} > 0" :: Code.linesOfAll statement inner ++ [closeLine]
  | .remark fragment => [.plain s!"// include `{fragment}` was never resolved"]
termination_by structural code => code

/-- The lines of steps one after the other. -/
def Code.linesOfAll (statement : String) : List Code → List Line
  | [] => []
  | code :: rest => code.lines statement ++ Code.linesOfAll statement rest
termination_by structural codes => codes

/-- The lines of the branches behind the first one. -/
def Code.linesOfOthers (statement : String) :
    List (TestCode Variable × List Code) → List Line
  | [] => []
  | (test, inner) :: rest =>
    .reopening (s!"\x7d else if {test.source Variable.source}" ++ openBrace)
      :: Code.linesOfAll statement inner ++ Code.linesOfOthers statement rest
termination_by structural branches => branches

end

def Function.lines (function : Function) : List Line :=
  let parameters := "param: &dyn ParameterAccessor, cx: &RenderContext"
  let result := "Result<RenderedSql, GuardViolation>"
  [.plain s!"/// `{function.statement}`",
      openLine s!"pub fn {function.name}({parameters}) -> {result}",
      .plain "let mut sql = String::new();", .plain "let mut params = Vec::new();"]
    ++ Code.linesOfAll function.statement function.body
    ++ [.plain "Ok(RenderedSql::finish(&sql, params))", closeLine]

/-- The lines in front of the functions of a module. -/
def Module.header (code : Module) : List Line :=
  let lints := "unused_imports, unused_mut, unused_parens, unused_variables, clippy::all"
  let types := "CompareOp, GuardViolation, ParameterAccessor, RenderContext, RenderedSql, Value"
  [.plain s!"/// Statements of mapper `{code.nameSpace}`.",
    .plain s!"#[allow({lints})]",
    openLine s!"pub mod {code.name}",
    .plain "use ::quarry_core::ops::\x7bcompare, truthy\x7d;",
    .plain "use ::quarry_core::runtime::\x7b",
    .plain "    guard_identifier, items, stringify, trim_set_body, trim_where_body,",
    .plain "\x7d;",
    .plain ("use ::quarry_core::\x7b" ++ types ++ "\x7d;")]

def Module.lines (code : Module) : List Line :=
  code.header ++ code.functions.flatMap (fun function => .blank :: function.lines) ++ [closeLine]

def Module.source (code : Module) : String :=
  Line.renderAll 0 code.lines

/-- The source of modules that share a file. -/
def sourceOfAll (modules : List Module) : String :=
  "\n".intercalate (modules.map Module.source)

end SqlMapper.Generated
