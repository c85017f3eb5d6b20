import TemplateRules.Text.Case
import TemplateRules.Text.Search

/-!
# Template features

A feature is a coarse capability of a template, recognised by literal markers. The built-in features
have a table of markers; a name that begins with `custom_` stands for the tags that are customary for
the rest of the name.
-/

namespace TemplateRules.Feature

open Text

/-! ## Built-in features -/

/-- The built-in features and their markers. -/
def builtIn : List (String × List String) := [
  ("validation_support",
    ["\x7b\x7b#hasValidation\x7d\x7d", "\x7b\x7b#isValid\x7d\x7d", "\x7b\x7b#validation\x7d\x7d",
      "@Valid", "@NotNull", "@Size", "@Pattern"]),
  ("nullable_support",
    ["\x7b\x7b#isNullable\x7d\x7d", "\x7b\x7b#nullable\x7d\x7d", "\x7b\x7b#allowNull\x7d\x7d",
      "@Nullable", "Optional<"]),
  ("discriminator_support",
    ["\x7b\x7b#hasDiscriminator\x7d\x7d", "\x7b\x7b#discriminator\x7d\x7d",
      "\x7b\x7b#inheritance\x7d\x7d", "@JsonSubTypes", "@JsonTypeInfo"]),
  ("imports_section",
    ["\x7b\x7b#imports\x7d\x7d", "\x7b\x7b#import\x7d\x7d", "import ", "\x7b\x7b>imports\x7d\x7d"]),
  ("package_declaration",
    ["\x7b\x7b#package\x7d\x7d", "\x7b\x7bpackageName\x7d\x7d", "package "]),
  ("documentation_support",
    ["\x7b\x7b#description\x7d\x7d", "\x7b\x7b#notes\x7d\x7d", "\x7b\x7b#summary\x7d\x7d",
      "/**", "@ApiModel", "@Schema"]),
  ("serialization_support",
    ["\x7b\x7b#jackson\x7d\x7d", "@JsonProperty", "@JsonInclude", "@JsonIgnore", "@JsonSerialize",
      "@JsonDeserialize"]),
  ("builder_pattern",
    ["\x7b\x7b#generateBuilders\x7d\x7d", ".builder()", "@Builder", "@SuperBuilder",
      "\x7b\x7b#hasBuilder\x7d\x7d"]),
  ("fluent_setters",
    ["\x7b\x7b#fluent\x7d\x7d", "\x7b\x7b#chainedAccessors\x7d\x7d", "@Accessors(fluent",
      "return this;"])]

/-- The names of the built-in features. -/
def builtInNames : List String := builtIn.map (·.1)

/-! ## Custom features -/

/-- What the name of a custom feature begins with. -/
def customMark : String := "custom_"

/-- Whether a name is built in or custom. -/
def isKnown (name : String) : Bool := builtInNames.contains name || startsWith name customMark

/-- A word with its first character in upper case and the rest in lower case. -/
def capitalise : List Char → List Char
  | [] => []
  | c :: cs => upperChars c ++ lowerChars cs

/-- A word with its first character in upper case. -/
def upperFirst : List Char → List Char
  | [] => []
  | c :: cs => upperChars c ++ cs

/-- Joins words that underscores separate, each but the first with a capital. -/
def camelCase (cs : List Char) : List Char :=
  match splitOn (· == '_') cs with
  | [] => []
  | head :: rest => lowerChars head ++ rest.flatMap capitalise

/-- A tag of the template language. -/
def tag (body : String) : String := "\x7b\x7b" ++ body ++ "\x7d\x7d"

/-- The tags that show a custom feature. -/
def customProbes (name : String) : List String :=
  let base := name.toList.drop customMark.toList.length
  let camel := String.ofList (camelCase base)
  let capital := String.ofList (upperFirst (camelCase base))
  [tag ("#" ++ camel), tag camel, tag ("#has" ++ capital), tag ("#is" ++ capital),
    tag (">" ++ camel), tag (">" ++ String.ofList base)]

/-! ## Detection -/

/-- The texts of which a template with the feature contains one; a name that is not known has none. -/
def probes (name : String) : List String :=
  if name.isEmpty then []
  else if startsWith name customMark then customProbes name
  else (builtIn.lookup name).getD []

/-- Whether a template shows a feature. -/
def isIn (template name : String) : Bool := (probes name).any (contains template)

/-- Every built-in feature and whether a template shows it. -/
def survey (template : String) : List (String × Bool) :=
  builtInNames.map fun name => (name, isIn template name)

end TemplateRules.Feature
