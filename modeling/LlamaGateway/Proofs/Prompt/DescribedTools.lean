import LlamaGateway.Proofs.Prompt.KeptMessages
import LlamaGateway.Proofs.Prompt.ToolDocuments

/-!
# Described tools

In a style that describes tools the system message starts with the lines that name the builtin
tools, and each custom tool is described once, in the order of the request: in a user message of its
own or in one list that ends the system message. Nothing else in front of the conversation tells of
tools.
-/

namespace LlamaGateway

/-- The lines that name builtin tools. The code interpreter is implied by the environment. -/
inductive EnvironmentLines : List BuiltinTool → List String → Prop
  | absent : EnvironmentLines [] []
  | implied {tools : List BuiltinTool} (present : tools ≠ [])
    (only : ∀ tool ∈ tools, tool = .codeInterpreter) :
    EnvironmentLines tools ["Environment: ipython"]
  | listed {tools : List BuiltinTool} {tool : BuiltinTool} (member : tool ∈ tools)
    (other : tool ≠ .codeInterpreter) :
    EnvironmentLines tools ["Environment: ipython", "Tools: " ++
      ", ".intercalate ((tools.filter fun tool => tool ≠ .codeInterpreter).map BuiltinTool.name)]

theorem EnvironmentLines.isLine {tools : List BuiltinTool} {lines : List String}
    (environment : EnvironmentLines tools lines) : ∀ line ∈ lines, Text.IsLine line := by
  have names : ∀ tool : BuiltinTool, '\n' ∉ tool.name.toList := by
    intro tool
    cases tool <;> decide
  have environmentLine : Text.IsLine "Environment: ipython" := by
    constructor <;> decide
  cases environment with
  | absent => exact List.forall_mem_nil _
  | implied => exact List.forall_mem_singleton.2 environmentLine
  | listed =>
    have listLine : '\n' ∉ (", ".intercalate
        ((tools.filter fun tool => tool ≠ .codeInterpreter).map BuiltinTool.name)).toList := by
      refine Text.not_mem_intercalate (by decide) fun name member => ?_
      obtain ⟨tool, -, rfl⟩ := List.mem_map.1 member
      exact names tool
    refine List.forall_mem_cons.2 ⟨environmentLine, List.forall_mem_singleton.2 ⟨by simp, ?_⟩⟩
    rw [String.toList_append, List.mem_append, not_or]
    exact ⟨by decide, listLine⟩

theorem EnvironmentLines.tools_eq_nil {tools : List BuiltinTool}
    (environment : EnvironmentLines tools []) : tools = [] := by
  cases environment
  rfl

theorem exists_environmentLines (tools : List BuiltinTool) :
    ∃ lines, EnvironmentLines tools lines ∧ builtinToolBlock tools = "\n".intercalate lines := by
  by_cases absent : tools = []
  · subst absent
    exact ⟨[], .absent, rfl⟩
  · have someTool : ¬ tools.isEmpty = true := by simpa using absent
    by_cases only : ∀ tool ∈ tools, tool = .codeInterpreter
    · have unlisted : (tools.filter fun tool => tool ≠ .codeInterpreter) = [] := by
        simpa using only
      refine ⟨_, .implied absent only, ?_⟩
      simp only [builtinToolBlock, if_neg someTool, unlisted]
      rfl
    · obtain ⟨tool, member, other⟩ : ∃ tool ∈ tools, tool ≠ .codeInterpreter := by
        simpa using only
      have someListed : ¬ ((tools.filter fun tool => tool ≠ .codeInterpreter).map
          BuiltinTool.name).isEmpty = true := by
        simpa using ⟨tool, member, other⟩
      refine ⟨_, .listed member other, ?_⟩
      simp only [builtinToolBlock, if_neg someTool, if_neg someListed]
      rw [String.intercalate_cons_cons, String.intercalate_singleton, ← String.append_assoc]
      rfl

namespace ToolPrompt

/-- What stands in front of the tools in the prompt that asks for calls as JSON objects. -/
def jsonOpening : String :=
  "Answer the user's question by making use of the following functions if needed.\n" ++
    "If none of the function can be used, please say so.\n" ++
    "Here is a list of functions in JSON format:\n"

/-- What the prompt that asks for function tags says of a tool with a text that describes it. -/
def tagEntry (tool : ToolDefinition) (text : String) : String :=
  "Use the function '" ++ tool.name.toString ++ "' to '" ++ tool.descriptionText ++ "':\n" ++
    text ++ "\n\n"

/-- What stands in front of the tools in the prompt that asks for a list of calls. -/
def functionListInstructions : String :=
  "If you decide to invoke any of the function(s), you MUST put it in the format of " ++
    "[func_name1(params_name1=params_value1, params_name2=params_value2...), " ++
    "func_name2(params)]\n" ++
    "You SHOULD NOT include any other text in the response.\n\n" ++
    "Here is a list of functions in JSON format that you can invoke.\n\n"

end ToolPrompt

/-- The user message that describes custom tools, if there are any. -/
inductive ToolTurn : ToolPromptFormat → List ToolDefinition → List Message → Prop
  | absent {format : ToolPromptFormat} : ToolTurn format [] []
  | json {tools : List ToolDefinition} {texts : List String} (present : tools ≠ [])
    (each : List.Forall₂ (fun tool text => ToolDefinition.DescribedIn tool .json text)
      tools texts) :
    ToolTurn .json tools [.userText (ToolPrompt.jsonOpening ++
      String.join (texts.map fun text => text ++ "\n") ++
        "\nReturn function calls in JSON format.")]
  | functionTag {tools : List ToolDefinition} {texts : List String} (present : tools ≠ [])
    (each : List.Forall₂ (fun tool text => ToolDefinition.DescribedIn tool .functionTag text)
      tools texts) :
    ToolTurn .functionTag tools [.userText ("You have access to the following functions:\n\n" ++
      String.join (List.zipWith ToolPrompt.tagEntry tools texts) ++
        ToolPrompt.functionTagInstructions)]

/-- What follows the lines for builtin tools in the style with a list of custom tools: the absorbed
text, in front of the list if there are custom tools. -/
inductive ListBody (format : ToolPromptFormat) (tools : List ToolDefinition)
    (absorbed : Option String) : List String → Prop
  | silent (noTools : tools = []) : ListBody format tools absorbed []
  | told {told text : String} (noTools : tools = []) (isAbsorbed : absorbed = some told)
    (inside : text.toList <:+: told.toList) : ListBody format tools absorbed [text]
  | listed {opening list : String} (isList : format = .pythonList) (present : tools ≠ [])
    (opens : opening.toList <:+
      (absorbed.getD ToolPrompt.functionListPreamble ++ "\n\n").toList)
    (lists : ToolPrompt.Lists tools list) :
    ListBody format tools absorbed [opening ++ ToolPrompt.functionListInstructions ++ list]

namespace ChatRequest

/-- The text of a leading system message. -/
def absorbedText (request : ChatRequest) : Option String :=
  (Augmentation.splitSystem request.messages).1.map Content.plainText

/-- The messages in front of a conversation, with all that they tell of tools. -/
inductive DescribesTools (request : ChatRequest) (today : CalendarDate) :
    ToolPromptStyle → List Message → Prop
  | dateHeader {lines : List String} {turn : List Message}
    (environment : EnvironmentLines request.builtinTools lines)
    (custom : ToolTurn request.toolPromptFormat request.customTools turn) :
    DescribesTools request today .dateHeader (.systemText ("\n".intercalate (lines ++
      (["Cutting Knowledge Date: December 2023", "Today Date: " ++ today.toText] ++
        request.absorbedText.toList))) :: turn)
  | functionList {lines body : List String}
    (environment : EnvironmentLines request.builtinTools lines)
    (custom : ListBody request.toolPromptFormat request.customTools request.absorbedText body)
    (present : lines ++ body ≠ []) :
    DescribesTools request today .functionList [.systemText ("\n".intercalate (lines ++ body))]
  | nothing (noBuiltin : request.builtinTools = []) (noCustom : request.customTools = []) :
    DescribesTools request today .functionList []

end ChatRequest

namespace Augmentation

variable {request : ChatRequest} {today : CalendarDate}

theorem json_eq (tools : List ToolDefinition) :
    ToolPrompt.json tools = ToolPrompt.jsonOpening ++
      String.join ((tools.map fun tool => tool.functionSchema.renderPretty).map fun text =>
        text ++ "\n") ++ "\nReturn function calls in JSON format." := by
  rw [List.map_map]
  rfl

theorem functionTag_eq (tools : List ToolDefinition) :
    ToolPrompt.functionTag tools = "You have access to the following functions:\n\n" ++
      String.join (List.zipWith ToolPrompt.tagEntry tools
        (tools.map fun tool => tool.tagSchema.render)) ++ ToolPrompt.functionTagInstructions := by
  rw [List.zipWith_map_right, List.zipWith_self]
  rfl

theorem toolTurn_of_dateHeaderTools {turn : List Message}
    (described : dateHeaderTools request = .ok turn) :
    ToolTurn request.toolPromptFormat request.customTools turn := by
  simp only [dateHeaderTools] at described
  split at described
  · next empty =>
    cases described
    rw [List.isEmpty_iff.1 empty]
    exact .absent
  · next present =>
    have someTool : request.customTools ≠ [] := by simpa using present
    split at described <;> cases described
    · next format =>
      rw [format, json_eq]
      refine .json someTool ?_
      rw [List.forall₂_map_right_iff, List.forall₂_same]
      exact fun tool _ => tool.describedIn_functionSchema
    · next format =>
      rw [format, functionTag_eq]
      refine .functionTag someTool ?_
      rw [List.forall₂_map_right_iff, List.forall₂_same]
      exact fun tool _ => tool.describedIn_tagSchema

/-- The block of the builtin tools is made of their lines. -/
theorem environment_of_lines {lines : List String}
    (block : builtinToolBlock request.builtinTools = "\n".intercalate lines)
    (isLine : ∀ line ∈ lines, Text.IsLine line) :
    environment request = if lines = [] then "" else "\n".intercalate lines ++ "\n" := by
  simp only [environment, block]
  by_cases absent : lines = []
  · subst absent
    rfl
  · obtain ⟨line, member⟩ := List.exists_mem_of_ne_nil lines absent
    rw [if_neg (Text.isEmpty_intercalate member (isLine line member).1), if_neg absent]

theorem environment_append {lines : List String}
    (block : builtinToolBlock request.builtinTools = "\n".intercalate lines)
    (isLine : ∀ line ∈ lines, Text.IsLine line) {rest : List String} (more : rest ≠ []) :
    environment request ++ "\n".intercalate rest = "\n".intercalate (lines ++ rest) := by
  rw [environment_of_lines block isLine]
  split
  · next absent =>
    rw [absent, String.empty_append, List.nil_append]
  · next present => rw [String.intercalate_append_of_ne_nil present more]

theorem dateHeaderText_eq (request : ChatRequest) (today : CalendarDate) :
    dateHeaderText request (splitSystem request.messages).1 today = environment request ++
      "\n".intercalate (["Cutting Knowledge Date: December 2023",
        "Today Date: " ++ today.toText] ++ request.absorbedText.toList) := by
  have dated : "\n".intercalate ["Cutting Knowledge Date: December 2023",
      "Today Date: " ++ today.toText] =
        "Cutting Knowledge Date: " ++ knowledgeCutoff ++ "\nToday Date: " ++ today.toText := by
    rw [String.intercalate_cons_cons, String.intercalate_singleton, ← String.append_assoc]
    exact congrArg (· ++ today.toText) rfl
  simp only [dateHeaderText, ChatRequest.absorbedText]
  cases (splitSystem request.messages).1 with
  | none =>
    rw [Option.map_none, Option.toList_none, List.append_nil, dated]
    simp only [String.append_assoc, String.append_empty]
  | some content =>
    rw [Option.map_some, Option.toList_some,
      String.intercalate_append_of_ne_nil (by simp) (by simp), dated, String.intercalate_singleton]
    simp only [String.append_assoc]

/-- Of a text behind lines only the end is trimmed. -/
theorem exists_trimLineBreaks_told {lines : List String} (present : lines ≠ [])
    (isLine : ∀ line ∈ lines, Text.IsLine line) (told : String) :
    ∃ body, (body = [] ∨ ∃ kept : String, body = [kept] ∧ kept.toList ≠ [] ∧
        kept.toList <:+: told.toList) ∧
      trimLineBreaks ("\n".intercalate lines ++ "\n" ++ told) =
        "\n".intercalate (lines ++ body) := by
  obtain ⟨nonempty, trimmed⟩ := Text.trimmed_intercalate present isLine
  have whole := trimmed.trim_append_append nonempty [] ('\n' :: told.toList)
  rw [List.nil_append, List.dropWhile_nil, List.nil_append, Text.trimEnd_cons] at whole
  have text_eq : ("\n".intercalate lines ++ "\n" ++ told).toList =
      ("\n".intercalate lines).toList ++ '\n' :: told.toList := by
    rw [String.toList_append, String.toList_append, List.append_assoc]
    rfl
  by_cases silent : Text.trimEnd (· = '\n') told.toList = []
  · have lineBreak : Text.trimEnd (· = '\n') ['\n'] = [] := by decide
    rw [if_pos silent, lineBreak, List.append_nil] at whole
    refine ⟨[], .inl rfl, ?_⟩
    rw [trimLineBreaks, text_eq, whole, String.ofList_toList, List.append_nil]
  · rw [if_neg silent] at whole
    refine ⟨[String.ofList (Text.trimEnd (· = '\n') told.toList)],
      .inr ⟨_, rfl, ?_⟩, ?_⟩
    · rw [String.toList_ofList]
      exact ⟨silent, (Text.trimEnd_prefix _).isInfix⟩
    · rw [String.intercalate_append_of_ne_nil present (by simp), String.intercalate_singleton,
        ← String.toList_inj, trimLineBreaks, text_eq, whole]
      simp

/-- Of a text in front of a part that is trimmed itself only the start is trimmed, and not even that
behind lines. -/
theorem exists_trimLineBreaks_listed {lines : List String}
    (block : builtinToolBlock request.builtinTools = "\n".intercalate lines)
    (isLine : ∀ line ∈ lines, Text.IsLine line) (front : String) {core : String}
    (nonempty : core.toList ≠ [])
    (trimmed : Text.Trimmed (· = '\n') core.toList) :
    ∃ opening : String, opening.toList <:+ front.toList ∧
      trimLineBreaks (environment request ++ front ++ core ++ "\n\n") =
        "\n".intercalate (lines ++ [opening ++ core]) := by
  have whole := trimmed.trim_append_append nonempty (environment request ++ front).toList
    ['\n', '\n']
  have lineBreaks : Text.trimEnd (· = '\n') ['\n', '\n'] = [] := by decide
  have text_eq : (environment request ++ front ++ core ++ "\n\n").toList =
      (environment request ++ front).toList ++ core.toList ++ ['\n', '\n'] := by
    simp only [String.toList_append]
    rfl
  rw [lineBreaks, List.append_nil, ← text_eq] at whole
  by_cases absent : lines = []
  · rw [environment_of_lines block isLine, if_pos absent, String.empty_append] at whole
    refine ⟨String.ofList (front.toList.dropWhile (· = '\n')), ?_, ?_⟩
    · rw [String.toList_ofList]
      exact List.dropWhile_suffix _
    · rw [absent, List.nil_append, String.intercalate_singleton, ← String.toList_inj,
        trimLineBreaks, String.toList_ofList, environment_of_lines block isLine, if_pos absent,
        String.empty_append, whole, String.toList_append, String.toList_ofList]
  · obtain ⟨linesNonempty, linesTrimmed⟩ := Text.trimmed_intercalate absent isLine
    refine ⟨front, List.suffix_rfl, ?_⟩
    have kept : (environment request ++ front).toList.dropWhile (· = '\n') =
        (environment request ++ front).toList := by
      obtain ⟨first, tail, isBlock⟩ := List.exists_cons_of_ne_nil linesNonempty
      have outside := linesTrimmed.starts first (by rw [isBlock]; rfl)
      rw [environment_of_lines block isLine, if_neg absent, String.append_assoc,
        String.toList_append, isBlock, List.cons_append,
        List.dropWhile_cons_of_neg (by simpa using outside)]
    rw [kept] at whole
    have more : [front ++ core] ≠ [] := List.cons_ne_nil _ _
    rw [← environment_append block isLine more, String.intercalate_singleton, ← String.toList_inj,
      trimLineBreaks, String.toList_ofList, whole]
    simp only [String.toList_append, List.append_assoc]

theorem getLast?_prettyItems (level : Nat) (items : List Json) :
    (Json.prettyItems level items).getLast? = some ']' := by
  induction items with
  | nil => simp [Json.prettyItems]
  | cons item items induction =>
    rw [Json.prettyItems, List.getLast?_append, induction]
    rfl

theorem getLast?_renderPretty_array (items : List Json) :
    (Json.array items).renderPretty.toList.getLast? = some ']' := by
  rw [Json.renderPretty, String.toList_ofList]
  cases items with
  | nil => rfl
  | cons item items =>
    rw [Json.pretty, List.getLast?_append, getLast?_prettyItems]
    rfl

theorem functionList_eq (tools : List ToolDefinition) (preamble : Option String) :
    ToolPrompt.functionList tools preamble ++ "\n" =
      (preamble.getD ToolPrompt.functionListPreamble ++ "\n\n") ++
        (ToolPrompt.functionListInstructions ++
          (Json.array (tools.map ToolDefinition.listSchema)).renderPretty) ++ "\n\n" := by
  have opening :
      "\n\nIf you decide to invoke any of the function(s), you MUST put it in the format of " =
        "\n\n" ++
          "If you decide to invoke any of the function(s), you MUST put it in the format of " := by
    simp
  have regroup (front first second third fourth fifth list : String) :
      front ++ ("\n\n" ++ first) ++ second ++ third ++ fourth ++ fifth ++ list ++ "\n" ++ "\n" =
        (front ++ "\n\n") ++ (first ++ second ++ third ++ fourth ++ fifth ++ list) ++
          ("\n" ++ "\n") := by
    simp only [String.append_assoc]
  rw [ToolPrompt.functionList, opening]
  exact regroup ..

theorem exists_functionListInstructions :
    ∃ rest, ToolPrompt.functionListInstructions.toList = 'I' :: rest := by
  obtain ⟨rest, starts⟩ : ∃ rest,
      "If you decide to invoke any of the function(s), you MUST put it in the format of ".toList =
        'I' :: rest := by simp
  unfold ToolPrompt.functionListInstructions
  rw [String.toList_append, String.toList_append, String.toList_append, String.toList_append,
    starts]
  exact ⟨_, rfl⟩

theorem listed_nonempty_trimmed (items : List Json) :
    (ToolPrompt.functionListInstructions ++ (Json.array items).renderPretty).toList ≠ [] ∧
      Text.Trimmed (· = '\n')
        (ToolPrompt.functionListInstructions ++ (Json.array items).renderPretty).toList := by
  obtain ⟨rest, starts⟩ := exists_functionListInstructions
  rw [String.toList_append, starts]
  refine ⟨List.cons_ne_nil _ _, fun first isFirst => ?_, fun last isLast => ?_⟩
  · cases isFirst
    rfl
  · rw [List.getLast?_append, getLast?_renderPretty_array] at isLast
    cases isLast
    rfl

/-- Without custom tools the absorbed text follows the lines for builtin tools. -/
theorem describesTools_of_untooled {lead : List Message} (noTools : request.customTools = [])
    (leading : functionListMessages request (splitSystem request.messages).1 = .ok lead) :
    request.DescribesTools today .functionList lead := by
  obtain ⟨lines, isEnvironment, block⟩ := exists_environmentLines request.builtinTools
  have isLine := isEnvironment.isLine
  have empty : request.customTools.isEmpty = true := by rw [noTools]; rfl
  have written : functionListText request (splitSystem request.messages).1 =
      .ok (environment request ++ request.absorbedText.getD "") := by
    simp only [functionListText, if_pos empty]
    rfl
  have isAbsorbed {kept : String} (nonempty : kept.toList ≠ [])
      (inside : kept.toList <:+: (request.absorbedText.getD "").toList) :
      ListBody request.toolPromptFormat request.customTools request.absorbedText [kept] := by
    cases told : request.absorbedText with
    | some text =>
      rw [told] at inside
      exact .told noTools rfl inside
    | none =>
      rw [told] at inside
      exact absurd (List.infix_nil.1 inside) nonempty
  rw [functionListMessages_of_text written, environment_of_lines block isLine] at leading
  by_cases absent : lines = []
  · subst absent
    rw [if_pos rfl, String.empty_append] at leading
    split at leading <;> cases leading
    · exact .nothing isEnvironment.tools_eq_nil noTools
    · next present =>
      have body : ListBody request.toolPromptFormat request.customTools request.absorbedText
          [trimLineBreaks (request.absorbedText.getD "")] := by
        refine isAbsorbed (fun nothing => present ?_) ?_
        · rw [String.isEmpty_iff, ← String.toList_inj, nothing]
          rfl
        · rw [trimLineBreaks, String.toList_ofList]
          exact Text.trim_infix _
      have described : request.DescribesTools today .functionList _ :=
        .functionList isEnvironment body (List.cons_ne_nil _ _)
      rwa [List.nil_append, String.intercalate_singleton] at described
  · obtain ⟨body, form, trimmed⟩ :=
      exists_trimLineBreaks_told absent isLine (request.absorbedText.getD "")
    obtain ⟨line, member⟩ := List.exists_mem_of_ne_nil lines absent
    rw [if_neg absent, trimmed, if_neg (Text.isEmpty_intercalate (List.mem_append_left body member)
      (isLine line member).1)] at leading
    cases leading
    refine .functionList isEnvironment ?_ (List.append_ne_nil_of_left_ne_nil absent body)
    rcases form with rfl | ⟨kept, rfl, nonempty, inside⟩
    · exact .silent noTools
    · exact isAbsorbed nonempty inside

/-- Custom tools are listed behind the absorbed text. -/
theorem describesTools_of_tooled {lead : List Message} (someTool : request.customTools ≠ [])
    (narrow : ∀ tool ∈ request.customTools, tool.NarrowDefaults)
    (leading : functionListMessages request (splitSystem request.messages).1 = .ok lead) :
    request.DescribesTools today .functionList lead := by
  have present : ¬ request.customTools.isEmpty = true := by simpa using someTool
  by_cases isList : request.toolPromptFormat = .pythonList
  · obtain ⟨lines, isEnvironment, block⟩ := exists_environmentLines request.builtinTools
    obtain ⟨nonempty, isTrimmed⟩ := listed_nonempty_trimmed
      (request.customTools.map ToolDefinition.listSchema)
    obtain ⟨opening, opens, trimmed⟩ := exists_trimLineBreaks_listed block isEnvironment.isLine
      (request.absorbedText.getD ToolPrompt.functionListPreamble ++ "\n\n") nonempty isTrimmed
    have written : functionListText request (splitSystem request.messages).1 =
        .ok (environment request ++ ToolPrompt.functionList request.customTools
          request.absorbedText ++ "\n") := by
      simp only [functionListText, if_neg present, if_pos isList]
      rfl
    have text_eq : environment request ++
        ToolPrompt.functionList request.customTools request.absorbedText ++ "\n" =
          environment request ++
            (request.absorbedText.getD ToolPrompt.functionListPreamble ++ "\n\n") ++
              (ToolPrompt.functionListInstructions ++ (Json.array (request.customTools.map
                ToolDefinition.listSchema)).renderPretty) ++ "\n\n" := by
      rw [String.append_assoc, functionList_eq, ← String.append_assoc, ← String.append_assoc]
    have last : opening ++ (ToolPrompt.functionListInstructions ++ (Json.array
        (request.customTools.map ToolDefinition.listSchema)).renderPretty) ∈ lines ++ [_] :=
      List.mem_append_right lines (List.mem_singleton_self _)
    have lastNonempty := List.append_ne_nil_of_right_ne_nil opening.toList nonempty
    rw [← String.toList_append] at lastNonempty
    rw [functionListMessages_of_text written, text_eq, trimmed,
      if_neg (Text.isEmpty_intercalate last lastNonempty)] at leading
    cases leading
    refine .functionList isEnvironment ?_ (by simp)
    rw [← String.append_assoc]
    exact .listed isList someTool opens (ToolPrompt.lists_listSchema narrow)
  · simp only [functionListMessages, functionListText, if_neg present, if_neg isList] at leading
    cases leading

/-- What the style with a function list puts in front. -/
theorem describesTools_functionList {lead : List Message}
    (narrow : ∀ tool ∈ request.customTools, tool.NarrowDefaults)
    (leading : functionListMessages request (splitSystem request.messages).1 = .ok lead) :
    request.DescribesTools today .functionList lead := by
  by_cases noTools : request.customTools = []
  · exact describesTools_of_untooled noTools leading
  · exact describesTools_of_tooled noTools narrow leading

/-- What a style puts in front describes the tools of the request. -/
theorem describesTools_of_leadingMessages {style : ToolPromptStyle} {lead : List Message}
    (styled : style ≠ .plain) (narrow : ∀ tool ∈ request.customTools, tool.NarrowDefaults)
    (leading : leadingMessages request style today = .ok lead) :
    request.DescribesTools today style lead := by
  cases style with
  | plain => exact absurd rfl styled
  | functionList => exact describesTools_functionList narrow leading
  | dateHeader =>
    obtain ⟨lines, isEnvironment, block⟩ := exists_environmentLines request.builtinTools
    simp only [leadingMessages, dateHeaderMessages] at leading
    cases described : dateHeaderTools request with
    | error failure =>
      rw [described] at leading
      cases leading
    | ok turn =>
      rw [described] at leading
      cases leading
      rw [dateHeaderText_eq, environment_append block isEnvironment.isLine (by simp)]
      exact .dateHeader isEnvironment (toolTurn_of_dateHeaderTools described)

end Augmentation

/-- A prompt in such a style is what the style puts in front, the other messages of the caller and
the instruction that closes the conversation. -/
theorem ChatRequest.exists_lead_of_prompt_eq_ok {request : ChatRequest} {family : ModelFamily}
    {today : CalendarDate} {prompt : String} (styled : family.toolPromptStyle ≠ .plain)
    (renders : request.prompt family today = .ok prompt) :
    ∃ lead kept,
      Augmentation.leadingMessages request family.toolPromptStyle today = .ok lead ∧
      WithoutLead request.messages kept ∧
        prompt = Dialog.encode (lead ++ kept ++ request.instructionMessages) family
          request.toolPromptFormat := by
  obtain ⟨messages, augmented, rfl⟩ := prompt_eq_ok_iff.1 renders
  have placed : ¬ request.Misplaced := by
    intro misplaced
    rw [Augmentation.augment_of_misplaced styled misplaced] at augmented
    cases augmented
  rw [Augmentation.augment_of_placed styled placed] at augmented
  cases leading : Augmentation.leadingMessages request family.toolPromptStyle today with
  | error failure =>
    rw [leading] at augmented
    cases augmented
  | ok lead =>
    rw [leading] at augmented
    cases augmented
    exact ⟨lead, _, rfl, Augmentation.withoutLead_splitSystem request.messages, rfl⟩

/-- The tools of a request that come from texts are always described so. -/
theorem prompt_describes_read_tools {request : ChatRequest} {family : ModelFamily}
    {today : CalendarDate} {prompt : String} (styled : family.toolPromptStyle ≠ .plain)
    (isRead : ∀ tool ∈ request.customTools, tool.IsRead)
    (renders : request.prompt family today = .ok prompt) :
    ∃ lead kept, request.DescribesTools today family.toolPromptStyle lead ∧
      WithoutLead request.messages kept ∧
        prompt = Dialog.encode (lead ++ kept ++ request.instructionMessages) family
          request.toolPromptFormat := by
  obtain ⟨lead, kept, leading, withoutLead, whole⟩ :=
    ChatRequest.exists_lead_of_prompt_eq_ok styled renders
  have narrow (tool : ToolDefinition) (inTools : tool ∈ request.customTools) :
      tool.NarrowDefaults :=
    (isRead tool inTools).narrowDefaults
  have describes := Augmentation.describesTools_of_leadingMessages styled narrow leading
  exact ⟨lead, kept, describes, withoutLead, whole⟩

end LlamaGateway
