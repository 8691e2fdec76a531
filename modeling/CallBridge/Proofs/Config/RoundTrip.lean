import CallBridge.Proofs.Config.Document

/-!
# A configuration reads back

The printed form of a configuration is a document with all five settings, so it is read as the
configuration it came from, in either layout and whatever its names and texts are.
-/

namespace CallBridge.Config

open Json Scan

def Setting.toJson : Setting → Json
  | .remoteFunctions names => .array (names.map .string)
  | .callTimeout ms => (ms.map timeoutJson).getD .null
  | .dispatchErrors policy => .string policy.name
  | .logLevel text => .string text
  | .prettyJson pretty => .bool pretty

theorem toJson_eq (c : Config) :
    c.toJson = .object (Field.all.map fun f => (f.name, (c.setting f).toJson)) := rfl

section Printed

variable (layout : Layout)

/-- A name on a line of its own. -/
def printedName (level : Nat) (name : String) : QuotedItem where
  text := printedItem layout level (.string name)
  name := name
  quotes := by
    rw [printedItem, render]
    exact quotes_quoted name

theorem written_names (level : Nat) (names : List String) :
    Written (.remoteFunctions names)
      (Symbols.ofChars (render layout level (.array (names.map .string)))) := by
  cases names with
  | nil =>
      rw [List.map_nil, render]
      exact .remoteFunctions [] noBlanks
  | cons name names =>
      have hwritten := Written.remoteFunctions
        ((name :: names).map (printedName layout (level + 1))) (lineBreak layout level)
      rw [List.map_cons, ofChars_render_items]
      simpa [Function.comp_def, printedName] using hwritten

/-- The printed value of a setting is one of its texts. -/
theorem written_render (level : Nat) (x : Setting) :
    Written x (Symbols.ofChars (render layout level x.toJson)) := by
  cases x with
  | remoteFunctions names => exact written_names layout level names
  | callTimeout ms =>
      cases ms with
      | none =>
          rw [Setting.toJson, Option.map_none, Option.getD_none, render]
          exact .noTimeout
      | some ms =>
          rw [Setting.toJson, Option.map_some, Option.getD_some, timeoutJson, render]
          exact .timeout ms
  | dispatchErrors policy =>
      rw [Setting.toJson, render]
      exact .policy (quotes_quoted _)
  | logLevel text =>
      rw [Setting.toJson, render]
      exact .logLevel (quotes_quoted text)
  | prettyJson pretty =>
      cases pretty with
      | true =>
          rw [Setting.toJson, render]
          exact .pretty
      | false =>
          rw [Setting.toJson, render]
          exact .plain

def printedSetting (x : Setting) : Member where
  text := printedMember layout 1 (x.field.name, x.toJson)
  setting := some x
  conveys := .known (quotes_quoted _) (written_render layout 1 x)

theorem settings_printed (xs : List Setting) :
    settings (xs.map (printedSetting layout)) = xs := by
  induction xs with
  | nil => rfl
  | cons x xs ih => rw [List.map_cons, settings_cons_some rfl, ih]

/-- The printed configuration as a document. -/
def printed (c : Config) : ObjectText where
  lead := noBlanks
  members := (Field.all.map c.setting).map (printedSetting layout)
  once := by
    rw [settings_printed, List.map_map]
    simp only [Function.comp_def, field_setting, List.map_id']
    decide
  inner := lineBreak layout 0
  trail := noBlanks

theorem symbols_printed (c : Config) :
    (printed layout c).symbols = Symbols.ofText (c.toJson.print layout) := by
  rw [Json.print, Symbols.ofText, String.toList_ofList, toJson_eq, Field.all, List.map_cons,
    ofChars_render_members]
  rfl

end Printed

/-- The printed form of a configuration is read back as it, in either layout and whatever its names
and texts are. -/
theorem ofBytes_print (c : Config) (layout : Layout) :
    ofBytes (c.toJson.print layout).toUTF8 = .ok c := by
  have hsettings : (Document.object (printed layout c)).settings = Field.all.map c.setting :=
    settings_printed layout _
  calc ofBytes (c.toJson.print layout).toUTF8
      = ofSymbols (printed layout c).symbols := by
        rw [ofBytes, Symbols.ofBytes_toUTF8, symbols_printed]
    _ = .ok (putAll {} (Field.all.map c.setting)) := by
        rw [← hsettings]
        exact ofSymbols_document (.object (printed layout c))
    _ = .ok c := by rw [putAll_setting]

end CallBridge.Config
