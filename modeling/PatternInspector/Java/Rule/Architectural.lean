import PatternInspector.Java.Rule.Basic

/-!
Rules for patterns of application architecture. They judge the unit as a whole; all but one of them go
through its classes themselves.
-/
namespace PatternInspector.Java

/-- Controllers and models in one unit; the detection belongs to no single class. -/
def detectMvc : UnitRule := fun classes _ =>
  let controllers := classes.filter fun c =>
    c.isNamed ["controller"] || c.annotations.contains "Controller" ||
      c.annotations.contains "RestController"
  let models := classes.filter fun c => c.isNamed ["model"] || c.annotations.contains "Entity"
  let views := classes.filter fun c => c.isNamed ["view"]
  if !controllers.isEmpty && !models.isEmpty then
    [{
      pattern := .mvc
      category := .architectural
      confidence := .high
      evidence := [counted controllers.length "個のController", counted models.length "個のModel",
        if views.isEmpty then "View（テンプレート側）" else counted views.length "個のView"] }]
  else []

def detectFrontController : UnitRule := fun classes _ =>
  classes.filterMap fun cls =>
    let marks := cls.annotations.filter fun a => a == "ControllerAdvice" || a == "WebFilter"
    let named := cls.isNamed ["dispatcherservlet", "frontcontroller"]
    if !marks.isEmpty || named then
      some (detectionAt .frontController .architectural cls .high
        (noteIf (!marks.isEmpty) ("アノテーション: " ++ listed marks) ++
          noteIf named "名前がFrontController/DispatcherServletを示す" ++
          ["リクエストの集中的な入口"])
        [])
    else none

def detectBusinessDelegate : UnitRule := fun classes _ =>
  classes.filterMap fun cls =>
    let services := cls.fields.filter fun f => mentions f.type ["service", "locator", "lookup"]
    if cls.isNamed ["delegate"] && !services.isEmpty then
      some (detectionAt .businessDelegate .architectural cls .medium
        ["名前に'Delegate'を含む", "ビジネスサービスへの参照: " ++ listed (services.map (·.type))]
        [])
    else none

def detectSessionFacade : UnitRule := fun classes _ =>
  classes.filterMap fun cls =>
    let marks := cls.annotations.filter fun a => a == "Stateless" || a == "Stateful"
    if !marks.isEmpty && cls.isNamed ["facade"] then
      some (detectionAt .sessionFacade .architectural cls .high
        ["セッションBeanアノテーション: " ++ listed marks, "名前に'Facade'を含む"]
        [])
    else if cls.isNamed ["sessionfacade"] then
      some (detectionAt .sessionFacade .architectural cls .medium
        ["名前に'SessionFacade'を含む",
          counted cls.publicInstanceMethods.length "個の粗粒度メソッド"]
        [])
    else none

def detectServiceLocator : UnitRule := fun classes detectAntipatterns =>
  classes.filterMap fun cls =>
    if cls.isNamed ["servicelocator", "servicefactory"] then
      some (detectionAt .serviceLocator .architectural cls .medium
        ["名前に'ServiceLocator'を含む", "サービス参照の取得を集中管理"]
        (noteIf detectAntipatterns
          "Service Locatorは現代的なJavaではアンチパターン。依存性注入を使うべき"))
    else none

def isTransferType (type : String) : Bool := mentions type ["dto"] || endsWith type "TO"

def detectTransferObjectAssembler : UnitRule := fun classes _ =>
  classes.filterMap fun cls =>
    let builders := cls.ownMethods.filter fun m => m.returnType.any isTransferType
    if cls.isNamed ["assembler"] && !builders.isEmpty then
      some (detectionAt .transferObjectAssembler .architectural cls .medium
        ["名前に'Assembler'を含む",
          "転送オブジェクトを組み立てるメソッド: " ++ listed (builders.map (·.name))]
        [])
    else none

def entityNames (classes : List ClassModel) : List String :=
  (classes.filter fun c => c.annotations.contains "Entity").map (·.name)

def detectCompositeEntity : UnitRule := fun classes _ =>
  let entities := entityNames classes
  classes.filterMap fun cls =>
    let dependents := cls.instanceFields.filter fun f =>
      entities.contains f.type && f.type != cls.name
    if entities.contains cls.name && 2 ≤ dependents.length then
      some (detectionAt .compositeEntity .architectural cls .low
        ["@Entityクラス", counted dependents.length "個の依存エンティティを保持"]
        [])
    else none

def architecturalRules : List Rule := [
  .perUnit .architectural .mvc detectMvc,
  .perUnit .architectural .frontController detectFrontController,
  .perUnit .architectural .businessDelegate detectBusinessDelegate,
  .perUnit .architectural .sessionFacade detectSessionFacade,
  .perUnit .architectural .serviceLocator detectServiceLocator,
  .perUnit .architectural .transferObjectAssembler detectTransferObjectAssembler,
  .perUnit .architectural .compositeEntity detectCompositeEntity]

end PatternInspector.Java
