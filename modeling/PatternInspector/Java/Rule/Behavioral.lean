import PatternInspector.Java.Rule.Basic

/-!
Rules for patterns of collaboration between objects.
-/
namespace PatternInspector.Java

def detectObserver : ClassRule := fun cls _ _ =>
  let observers := cls.fields.any fun f =>
    (hasPart f.type "List" || hasPart f.type "Set") && mentions f.name ["observer", "listener"]
  let adds := cls.ownMethods.any fun m =>
    mentions m.name ["add"] && mentions m.name ["observer", "listener"]
  if observers && cls.hasMethodLike ["notify", "update"] && adds then
    some (detectionAt .observer .behavioral cls .high
      ["observer/listenerのリスト", "notify/updateメソッド", "observer/listenerの登録メソッド"]
      [])
  else none

def detectStrategy : ClassRule := fun cls _ _ =>
  let asInterface := cls.isInterface && !cls.ownMethods.isEmpty
  let strategyField := cls.fields.any fun f => mentions f.type ["strategy", "algorithm"]
  let executes := cls.hasMethodLike ["execute", "perform", "calculate"]
  if asInterface || (strategyField && executes) then
    some (detectionAt .strategy .behavioral cls (.highIf asInterface)
      ((if asInterface then
          ["戦略インターフェース", counted cls.ownMethods.length "個の差し替え可能なメソッド"]
          else []) ++
        noteIf strategyField "戦略オブジェクトのフィールド" ++
        noteIf executes "execute/perform/calculateメソッド")
      [])
  else none

/-- The detection stands at the template method, not at the class. -/
def detectTemplateMethod : ClassRule := fun cls _ _ =>
  let steps := cls.ownMethods.filter (·.isAbstract)
  let template := cls.ownMethods.find? fun m =>
    !m.isAbstract && m.isPublic && mentions m.name ["template", "execute", "run"]
  match template with
  | none => none
  | some method =>
      if cls.isAbstract && !steps.isEmpty then
        some {
          pattern := .templateMethod
          category := .behavioral
          confidence := .high
          evidence := ["抽象クラス", counted steps.length "個の抽象メソッド",
            "テンプレートメソッド: " ++ method.name]
          className := cls.name
          methodName := method.name
          line := method.line }
      else none

def detectCommand : ClassRule := fun cls _ _ =>
  let undoes := cls.hasMethod "undo"
  let named := cls.isNamed ["command"]
  if cls.hasMethod "execute" && (named || undoes) then
    some (detectionAt .command .behavioral cls .high
      (["execute()メソッド"] ++ noteIf undoes "undo()メソッド" ++
        noteIf named "名前に'Command'を含む")
      [])
  else none

def detectState : ClassRule := fun cls _ _ =>
  let stateField := cls.fields.any fun f => mentions f.type ["state"]
  let transition := cls.hasMethodLike ["state", "transition"]
  let stateInterface := cls.isInterface && cls.isNamed ["state"]
  if stateInterface || (stateField && transition) then
    some (detectionAt .state .behavioral cls .medium
      (noteIf stateInterface "Stateインターフェース" ++
        noteIf stateField "状態オブジェクトのフィールド" ++
        noteIf transition "状態遷移メソッド")
      [])
  else none

def detectIterator : ClassRule := fun cls _ _ =>
  let declared := cls.implements.contains "Iterator"
  let offered := cls.hasMethod "next" && cls.hasMethod "hasNext"
  if declared || offered then
    some (detectionAt .iterator .behavioral cls (.highIf (declared && offered))
      (noteIf declared "Iteratorを実装" ++ noteIf offered "next()とhasNext()メソッド")
      [])
  else none

def detectChainOfResponsibility : ClassRule := fun cls _ _ =>
  let successor := cls.fields.any fun f =>
    mentions f.type ["handler"] || mentions f.name ["next"]
  if successor && cls.hasMethodLike ["handle", "process"] then
    some (detectionAt .chainOfResponsibility .behavioral cls .medium
      ["次のハンドラへの参照フィールド", "handle/processメソッド"]
      [])
  else none

def detectMediator : ClassRule := fun cls _ _ =>
  if cls.isNamed ["mediator"] && cls.fields.any (isCollection ·.type) &&
      cls.hasMethodLike ["notify", "mediate"] then
    some (detectionAt .mediator .behavioral cls .medium
      ["名前に'Mediator'を含む", "同僚オブジェクトのコレクション", "notify/mediateメソッド"]
      [])
  else none

def detectMemento : ClassRule := fun cls classes _ =>
  if cls.isNamed ["memento"] && cls.fields.any fun f => f.isPrivate && f.isFinal then
    some (detectionAt .memento .behavioral cls .medium
      (["名前に'Memento'を含む", "状態を保持するprivate finalフィールド"] ++
        noteIf (classes.any fun c => c.isNamed ["caretaker"]) "Caretakerクラスが存在")
      [])
  else none

def detectVisitor : ClassRule := fun cls _ _ =>
  let named := cls.isNamed ["visitor"]
  let visits := cls.ownMethods.filter fun m => startsWith m.name "visit"
  let accepts := cls.hasMethod "accept"
  if (named && 2 ≤ visits.length) || accepts then
    some (detectionAt .visitor .behavioral cls .low
      (noteIf named "名前に'Visitor'を含む" ++
        noteIf (2 ≤ visits.length) (counted visits.length "個のvisitメソッド") ++
        noteIf accepts "accept()メソッド")
      [])
  else none

def detectInterpreter : ClassRule := fun cls _ _ =>
  if cls.hasMethodLike ["interpret", "evaluate"] && cls.isNamed ["expression"] then
    some (detectionAt .interpreter .behavioral cls .low
      ["interpret/evaluateメソッド", "名前に'Expression'を含む"]
      [])
  else none

def behavioralRules : List Rule := [
  .perClass .behavioral .observer detectObserver,
  .perClass .behavioral .strategy detectStrategy,
  .perClass .behavioral .templateMethod detectTemplateMethod,
  .perClass .behavioral .command detectCommand,
  .perClass .behavioral .state detectState,
  .perClass .behavioral .iterator detectIterator,
  .perClass .behavioral .chainOfResponsibility detectChainOfResponsibility,
  .perClass .behavioral .mediator detectMediator,
  .perClass .behavioral .memento detectMemento,
  .perClass .behavioral .visitor detectVisitor,
  .perClass .behavioral .interpreter detectInterpreter]

end PatternInspector.Java
