import WebLinking.Checked
import WebLinking.Text.LetterCase

/-!
# Settings

What an environment may set: the level of logging, the size of the store of templates,
and how page links name and count pages. Variables of the environment carry a common
prefix and are found in any letter case.
-/

namespace WebLinking

/-- The settings of the library. -/
structure Settings where
  /-- The name of the level of logging. -/
  logLevel : Text := "INFO".toList
  /-- How many templates are kept for reuse. -/
  templateCacheSize : Int := 256
  /-- The name of the query parameter for page numbers. -/
  pageParameter : Text := "page".toList
  /-- The name of the query parameter for page sizes. -/
  sizeParameter : Text := "size".toList
  /-- Page numbers in links are counted from one. -/
  oneIndexed : Bool := false
  deriving DecidableEq, Repr

namespace Settings

/-- The start of the names of all variables of the environment. -/
def environmentPrefix : Text := "HYPERMEDIA_".toList

/-- The text that an environment gives to a setting; the last of several spellings of its
name counts. -/
def lookup (environment : List (Text × Text)) (setting : String) : Option Value :=
  let name := Text.lower (environmentPrefix ++ setting.toList)
  ((environment.filter fun entry => entry.1.lower == name).getLast?).map fun entry => .text entry.2

/-- The settings that an environment makes. -/
def ofEnvironment (environment : List (Text × Text)) : Except Fault Settings :=
  let read {α : Type} (setting : String) (default : α) (check : Value → Checked α) : Checked α :=
    (Checked.withDefault default check (lookup environment setting)).inField setting
  let standard : Settings := {}
  (Settings.mk <$> read "LOG_LEVEL" standard.logLevel Value.asText <*>
    read "URI_TEMPLATE_CACHE_SIZE" standard.templateCacheSize Value.asInteger <*>
    read "PAGE_PARAMETER" standard.pageParameter Value.asText <*>
    read "SIZE_PARAMETER" standard.sizeParameter Value.asText <*>
    read "ONE_INDEXED_PARAMETERS" standard.oneIndexed Value.asBoolean).settle

end Settings

end WebLinking
