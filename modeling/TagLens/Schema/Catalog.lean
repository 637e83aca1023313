import TagLens.Schema.Basic

/-!
# The resource catalog dialect

The built-in schema: resource catalogs, which group message entries with their links,
diagnostics and the actions a user may take on them.
-/

namespace TagLens.Schema.Catalog

/-- Elements with the elements that may stand inside them. -/
def hierarchy : List (String × List String) :=
  [
    ("ROOT", ["EtaRsccat"]),
    ("EtaRsccat", ["ZetaMessage"]),
    ("ZetaMessage", ["BetaEntry"]),
    ("BetaEntry", ["OmegaA", "SigmaDiag", "LambdaActions", "RandomElement1"]),
    ("LambdaActions", ["DeltaAction", "InsertActions", "ActionCatalog", "RandomElement3"]),
    ("ThetaActions", ["DeltaAction", "InsertActions", "ActionCatalog", "RandomElement3"]),
    ("DeltaAction", ["EpsilonCmd", "ZetaParams", "EtaCargs", "ThetaTxt", "IotaMsg"]),
    ("ZetaParams", ["BetaPrm"]),
    ("BetaPrm", ["GammaObj", "DeltaName", "EpsilonVal"]),
    ("EtaCargs", ["PhiCarg"]),
    ("PhiCarg", ["PsiTxtPrompt", "ChiDefCmd", "OmegaEnumCmd", "SigmaEnum", "RandomElement2"]),
    ("IotaMsg", ["BetaArg"]),
    ("BetaArg", ["OmegaA"]),
    ("InsertActions", ["BetaArg"]),
    ("ActionCatalog", ["BetaArg"]),
    ("RhoCommandType", ["OmegaA", "SigmaDiag"]),
    ("AlphaActionTxtType", ["OmegaA", "SigmaDiag"]),
    ("EpsilonCmd", ["OmegaA", "SigmaDiag"]),
    ("ChiDefCmd", ["OmegaA", "SigmaDiag"]),
    ("OmegaEnumCmd", ["OmegaA", "SigmaDiag"]),
    ("GammaObj", ["OmegaA", "SigmaDiag"]),
    ("ThetaTxt", ["OmegaA", "SigmaDiag"]) ]

/-- Elements with their attributes. -/
def attributes : List (String × List String) :=
  [
    ("EtaRsccat", ["TauVersion", "UpsilonProduct", "ChiLocale", "OmegaDecorateCxxNames"]),
    ("BetaEntry", ["PsiKey", "PhiTranslate", "MuCdata", "NuNote", "XiContext", "RandomAttr1"]),
    ("OmegaA", ["RhoHref", "SigmaFileName", "TauStyle", "UpsilonId", "RandomAttr2"]),
    ("SigmaDiag", ["PhiObjP", "ChiObjU", "PsiObjN"]),
    ("DeltaAction", ["KappaEnabled", "LambdaId", "MuType", "NuBtn", "XiRetvalue"]),
    ("LambdaActions", ["XiExFixThese", "KappaEnabled", "MuOrder"]),
    ("ThetaActions", ["XiExFixThese", "KappaEnabled", "MuOrder"]),
    ("PhiCarg", ["TauName", "UpsilonType", "PhiTranslate"]),
    ("OmegaMsgActType", ["GammaId"]),
    ("EpsilonSomeType", ["KappaEnabled", "LambdaFromId", "MuActionableIdentifiers"]),
    ("ZetaActionCatalogIndirectType", ["KappaEnabled", "LambdaFromId", "MuIds", "NuId"]) ]

/-- Elements with the attributes they cannot do without. -/
def required : List (String × List String) :=
  [
    ("BetaEntry", ["PsiKey"]),
    ("EtaRsccat", ["UpsilonProduct"]),
    ("OmegaA", ["RhoHref"]),
    ("SigmaDiag", ["PhiObjP", "ChiObjU"]),
    ("DeltaAction", ["MuType"]) ]

/-- Attributes with the values they may take. -/
def enums : List (String × List String) :=
  [
    ("XiContext", ["error", "warning", "diagnostic", "textstring", "paramobject"]),
    ("UpsilonType", ["text", "menu"]),
    ("MuType", ["fixthis", "suggest", "suppress", "help", "doc"]),
    ("NuBtn", ["none", "fix", "resolve", "apply", "open", "suppress", "disable"]),
    ("XiRetvalue", ["false", "no", "true", "yes"]),
    ("XiExFixThese", ["yes", "no"]),
    ("MuOrder", ["block"]) ]

/-- Attributes whose value is an identifier. -/
def identifierAttributes : List String :=
  ["PsiKey", "UpsilonProduct"]

/-- Attributes whose value is a truth value. -/
def booleanAttributes : List String :=
  ["PhiTranslate", "MuCdata", "KappaEnabled", "OmegaDecorateCxxNames"]

/-- The elements that exist. -/
def known : List String :=
  ["EtaRsccat", "ZetaMessage", "BetaEntry", "LambdaActions", "ThetaActions", "DeltaAction",
   "OmegaA", "SigmaDiag", "EpsilonCmd", "ZetaParams", "BetaPrm", "GammaObj", "DeltaName",
   "EpsilonVal", "EtaCargs", "PhiCarg", "PsiTxtPrompt", "ChiDefCmd", "OmegaEnumCmd", "SigmaEnum",
   "ThetaTxt", "IotaMsg", "BetaArg", "InsertActions", "ActionCatalog", "RandomElement1",
   "RandomElement2", "RandomElement3", "GammaParamsType", "AlphaActionTxtType", "RhoCommandType",
   "TauPromptType", "UpsilonUserMsgType", "PhiCargType", "ChiCargsType", "PsiAMsgArgumentType",
   "OmegaMsgActType", "BetaParamType", "EpsilonSomeType", "ZetaActionCatalogIndirectType",
   "PiIntroType", "GammaHLType", "DeltaDType"]

/-- Documentation written with plain strings. -/
def document (description details : String) (attributes : List (String × String)) :
    Documentation :=
  { description, details, attributes := attributes.map fun entry => (entry.1.toList, entry.2) }

/-- The attributes of a container of actions. -/
def actionContainer : List (String × String) :=
  [("XiExFixThese", "Whether fix-it actions are mutually exclusive"),
    ("KappaEnabled", "Whether actions are enabled"),
    ("MuOrder", "Ordering strategy for actions")]

/-- The documented elements. -/
def documentation : List (String × Documentation) :=
  [
    ("EtaRsccat", document
      "Root element for RMC resource catalog"
      "Contains version information and message definitions for the resource catalog."
      [("TauVersion", "Version number of the resource catalog"),
        ("UpsilonProduct", "Product identifier (required)"),
        ("ChiLocale", "Locale specification for internationalization"),
        ("OmegaDecorateCxxNames", "Whether to decorate C++ names")]),
    ("BetaEntry", document
      "Individual message entry with unique key"
      ("Represents a single message or diagnostic entry in the catalog. Each entry must "
        ++ "have a unique PsiKey.")
      [("PsiKey", "Unique identifier for this message entry (required)"),
        ("PhiTranslate", "Whether this entry should be translated"),
        ("MuCdata", "Whether content should be treated as CDATA"),
        ("NuNote", "Additional notes for translators"),
        ("XiContext", "Context type: error, warning, diagnostic, textstring, paramobject"),
        ("RandomAttr1", "Optional integer attribute")]),
    ("DeltaAction", document
      "Action definition for user interactions"
      ("Defines an action that can be performed by the user, such as fix-it suggestions "
        ++ "or help actions.")
      [("MuType", "Action type: fixthis, suggest, suppress, help, doc (required)"),
        ("LambdaId", "Unique identifier for this action"),
        ("KappaEnabled", "Whether this action is enabled"),
        ("NuBtn", "Button type: none, fix, resolve, apply, open, suppress, disable"),
        ("XiRetvalue", "Return value: true, false, yes, no")]),
    ("OmegaA", document
      "Hyperlink to Custom objects"
      "Creates a link to a Custom object or model element."
      [("RhoHref", "Target reference for the hyperlink (required)"),
        ("SigmaFileName", "Associated file name"),
        ("TauStyle", "Display style for the link"),
        ("UpsilonId", "Unique identifier for the link"),
        ("RandomAttr2", "Optional string attribute")]),
    ("SigmaDiag", document
      "Diagnostic link to Custom UI"
      "Creates a link to Custom UI elements for diagnostic purposes."
      [("PhiObjP", "Object paramobject reference (required)"),
        ("ChiObjU", "Object UI reference (required)"),
        ("PsiObjN", "Object name for display")]),
    ("LambdaActions", document
      "Container for message actions"
      "Groups related actions that can be performed on a message entry."
      actionContainer),
    ("ZetaMessage", document
      "Container for message entries"
      "Groups all message entries in the resource catalog."
      []),
    ("ThetaActions", document
      "Advanced action container"
      "Container for complex action definitions with additional features."
      actionContainer),
    ("PhiCarg", document
      "Command argument definition"
      "Declares one argument of a command together with how the user supplies it."
      [("TauName", "Argument name"),
        ("UpsilonType", "Input style: text, menu"),
        ("PhiTranslate", "Whether the argument prompt should be translated")]) ]

/-- A table of names. -/
def texts (table : List (String × List String)) : List (Text × List Text) :=
  table.map fun entry => (entry.1.toList, entry.2.map String.toList)

/-- The tables of the dialect. -/
def tables : Tables :=
  { hierarchy := texts hierarchy
    attributes := texts attributes
    required := texts required
    enums := texts enums
    known := some (known.map String.toList)
    patternAttributes := identifierAttributes.map String.toList
    booleanAttributes := booleanAttributes.map String.toList
    documentation := documentation.map fun entry => (entry.1.toList, entry.2) }

/-- The tables are consistent. -/
theorem tables_consistent : (ofTables tables).toOption.isSome = true := by decide +kernel

/-- The schema of resource catalogs. -/
def schema : Schema := (ofTables tables).toOption.get tables_consistent

end TagLens.Schema.Catalog
