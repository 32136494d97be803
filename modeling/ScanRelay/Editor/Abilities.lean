import ScanRelay.Json.Schema

/-!
# The abilities of editors

At the start an editor says what it can do. Nothing depends on it, but it has to have the form that
the protocol lays down.
-/

namespace ScanRelay.EditorAbilities

/-! ## Parts -/

/-- A group of abilities, each of which may be missing. -/
def group (name : String) (fields : List (String × Schema)) : Schema :=
  .record name (.ofOptional fields)

/-- Things that an editor can do or not. -/
def flags (names : List String) : List (String × Schema) := names.map fun name => (name, .bool)

def dynamic : List (String × Schema) := flags ["dynamicRegistration"]

/-- A feature that may be registered later. -/
def feature : Schema := group "DynamicRegistrationClientCapabilities" dynamic

/-- The properties that an editor asks for when it needs them. -/
def properties (name : String) : Schema :=
  .record name (.ofRequired [("properties", .list .text)] .nil)

/-- A set of numbered kinds, under a name. -/
def kinds (name : String) : Schema := group name [("valueSet", .list .int32)]

/-- The tags that are understood, or a truth value, as some editors send it. -/
def tags : Schema :=
  .unlessBool (.record "TagSupport" (.ofRequired [("valueSet", .list .int32)] .nil))

/-- Abilities with one on tags between the others. -/
def tagged (name : String) (before after : List (String × Schema)) : Schema :=
  .record name <| (Fields.ofOptional before).append <| .cons "tagSupport" .default tags <|
    .ofOptional after

def symbolKinds : Schema := kinds "SymbolKindCapability"

def markup : Schema := .list (.variants ["plaintext", "markdown"])

def refresh (name : String) : Schema := group name (flags ["refreshSupport"])

/-! ## Workspaces -/

def edits : Schema :=
  group "WorkspaceEditClientCapabilities"
    [("documentChanges", .bool),
      ("resourceOperations", .list (.variants ["create", "rename", "delete"])),
      ("failureHandling",
        .variants ["abort", "transactional", "textOnlyTransactional", "undo"]),
      ("normalizesLineEndings", .bool),
      ("changeAnnotationSupport",
        group "ChangeAnnotationWorkspaceEditClientCapabilities" (flags ["groupsOnLabel"]))]

def workspaceSymbols : Schema :=
  tagged "WorkspaceSymbolClientCapabilities" (dynamic ++ [("symbolKind", symbolKinds)])
    [("resolveSupport", properties "WorkspaceSymbolResolveSupportCapability")]

def fileOperations : Schema :=
  group "WorkspaceFileOperationsClientCapabilities" <| dynamic ++
    flags ["didCreate", "willCreate", "didRename", "willRename", "didDelete", "willDelete"]

def workspace : Schema :=
  group "WorkspaceClientCapabilities"
    [("applyEdit", .bool), ("workspaceEdit", edits), ("didChangeConfiguration", feature),
      ("didChangeWatchedFiles", group "DidChangeWatchedFilesClientCapabilities" <|
        dynamic ++ flags ["relativePatternSupport"]),
      ("symbol", workspaceSymbols), ("executeCommand", feature), ("workspaceFolders", .bool),
      ("configuration", .bool),
      ("semanticTokens", refresh "SemanticTokensWorkspaceClientCapabilities"),
      ("codeLens", refresh "CodeLensWorkspaceClientCapabilities"),
      ("fileOperations", fileOperations),
      ("inlineValue", refresh "InlineValueWorkspaceClientCapabilities"),
      ("inlayHint", refresh "InlayHintWorkspaceClientCapabilities"),
      ("diagnostic", refresh "DiagnosticWorkspaceClientCapabilities")]

/-! ## Documents -/

def completionItem : Schema :=
  tagged "CompletionItemCapability"
    [("snippetSupport", .bool), ("commitCharactersSupport", .bool),
      ("documentationFormat", markup), ("deprecatedSupport", .bool), ("preselectSupport", .bool)]
    [("insertReplaceSupport", .bool),
      ("resolveSupport", properties "CompletionItemCapabilityResolveSupport"),
      ("insertTextModeSupport",
        .record "InsertTextModeSupport" (.ofRequired [("valueSet", .list .int32)] .nil)),
      ("labelDetailsSupport", .bool)]

def completion : Schema :=
  group "CompletionClientCapabilities" <| dynamic ++
    [("completionItem", completionItem),
      ("completionItemKind", kinds "CompletionItemKindCapability"), ("contextSupport", .bool),
      ("insertTextMode", .int32),
      ("completionList", group "CompletionListCapability" [("itemDefaults", .list .text)])]

def signatureHelp : Schema :=
  group "SignatureHelpClientCapabilities" <| dynamic ++
    [("signatureInformation", group "SignatureInformationSettings"
        [("documentationFormat", markup),
          ("parameterInformation",
            group "ParameterInformationSettings" (flags ["labelOffsetSupport"])),
          ("activeParameterSupport", .bool)]),
      ("contextSupport", .bool)]

def documentSymbols : Schema :=
  tagged "DocumentSymbolClientCapabilities"
    (dynamic ++ [("symbolKind", symbolKinds), ("hierarchicalDocumentSymbolSupport", .bool)]) []

def goto : Schema := group "GotoCapability" (dynamic ++ flags ["linkSupport"])

def codeAction : Schema :=
  group "CodeActionClientCapabilities" <| dynamic ++
    [("codeActionLiteralSupport", .record "CodeActionLiteralSupport" (.ofRequired
        [("codeActionKind", .record "CodeActionKindLiteralSupport" (.ofRequired
          [("valueSet", .list .text)] .nil))] .nil)),
      ("isPreferredSupport", .bool), ("disabledSupport", .bool), ("dataSupport", .bool),
      ("resolveSupport", properties "CodeActionCapabilityResolveSupport"),
      ("honorsChangeAnnotations", .bool)]

def rename : Schema :=
  group "RenameClientCapabilities" <| dynamic ++
    [("prepareSupport", .bool), ("prepareSupportDefaultBehavior", .int32),
      ("honorsChangeAnnotations", .bool)]

def publishing : Schema :=
  tagged "PublishDiagnosticsClientCapabilities" (flags ["relatedInformation"])
    (flags ["versionSupport", "codeDescriptionSupport", "dataSupport"])

def folding : Schema :=
  group "FoldingRangeClientCapabilities" <| dynamic ++
    [("rangeLimit", .uint32), ("lineFoldingOnly", .bool),
      ("foldingRangeKind", group "FoldingRangeKindCapability"
        [("valueSet", .list (.variants ["comment", "imports", "region"]))]),
      ("foldingRange", group "FoldingRangeCapability" (flags ["collapsedText"]))]

def tokenRequests : Schema :=
  group "SemanticTokensClientCapabilitiesRequests"
    [("range", .bool),
      ("full", .boolOrObject "SemanticTokensFullOptions" (group "" (flags ["delta"])))]

def semanticTokens : Schema :=
  .record "SemanticTokensClientCapabilities" <| (Fields.ofOptional dynamic).append <|
    .ofRequired [("requests", tokenRequests), ("tokenTypes", .list .text),
      ("tokenModifiers", .list .text), ("formats", .list .text)] <|
    .ofOptional <| flags ["overlappingTokenSupport", "multilineTokenSupport",
      "serverCancelSupport", "augmentsSyntaxTokens"]

def textDocument : Schema :=
  group "TextDocumentClientCapabilities"
    [("synchronization", group "TextDocumentSyncClientCapabilities" <|
        dynamic ++ flags ["willSave", "willSaveWaitUntil", "didSave"]),
      ("completion", completion),
      ("hover", group "HoverClientCapabilities" (dynamic ++ [("contentFormat", markup)])),
      ("signatureHelp", signatureHelp), ("references", feature), ("documentHighlight", feature),
      ("documentSymbol", documentSymbols), ("formatting", feature), ("rangeFormatting", feature),
      ("onTypeFormatting", feature), ("declaration", goto), ("definition", goto),
      ("typeDefinition", goto), ("implementation", goto), ("codeAction", codeAction),
      ("codeLens", feature),
      ("documentLink",
        group "DocumentLinkClientCapabilities" (dynamic ++ flags ["tooltipSupport"])),
      ("colorProvider", feature), ("rename", rename), ("publishDiagnostics", publishing),
      ("foldingRange", folding),
      ("selectionRange", group "SelectionRangeClientCapabilities" dynamic),
      ("linkedEditingRange", feature), ("callHierarchy", feature),
      ("semanticTokens", semanticTokens), ("moniker", feature), ("typeHierarchy", feature),
      ("inlineValue", feature),
      ("inlayHint", group "InlayHintClientCapabilities" <|
        dynamic ++ [("resolveSupport", properties "InlayHintResolveClientCapabilities")]),
      ("diagnostic",
        group "DiagnosticClientCapabilities" (dynamic ++ flags ["relatedDocumentSupport"]))]

/-! ## Windows, and all else -/

def window : Schema :=
  group "WindowClientCapabilities"
    [("workDoneProgress", .bool),
      ("showMessage", group "ShowMessageRequestClientCapabilities"
        [("messageActionItem",
          group "MessageActionItemCapabilities" (flags ["additionalPropertiesSupport"]))]),
      ("showDocument",
        .record "ShowDocumentClientCapabilities" (.ofRequired [("support", .bool)] .nil))]

def general : Schema :=
  group "GeneralClientCapabilities"
    [("regularExpressions", .record "RegularExpressionsClientCapabilities" <|
        .cons "engine" .required .text <| .ofOptional [("version", .text)]),
      ("markdown", .record "MarkdownClientCapabilities" <|
        .cons "parser" .required .text <|
        .ofOptional [("version", .text), ("allowedTags", .list .text)]),
      ("staleRequestSupport", .record "StaleRequestSupportClientCapabilities" <|
        .ofRequired [("cancel", .bool), ("retryOnContentModified", .list .text)] .nil),
      ("positionEncodings", .list .text)]

def schema : Schema :=
  group "ClientCapabilities"
    [("workspace", workspace), ("textDocument", textDocument), ("window", window),
      ("general", general), ("experimental", .any)]

end ScanRelay.EditorAbilities
