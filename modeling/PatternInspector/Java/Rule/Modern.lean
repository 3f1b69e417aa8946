import PatternInspector.Java.Rule.Basic

/-!
Rules for patterns of injected and distributed services.
-/
namespace PatternInspector.Java

def Field.isMarked (field : Field) (names : List String) : Bool :=
  names.any fun name => field.modifiers.contains name

def detectDependencyInjection : ClassRule := fun cls _ detectAntipatterns =>
  let autowired := cls.fields.any (·.isMarked ["Autowired"]) || cls.annotations.contains "Autowired"
  let inject := cls.annotations.contains "Inject" || cls.fields.any (·.isMarked ["Inject"])
  let byConstructor := (cls.constructors.any fun m => !m.parameters.isEmpty) &&
    cls.instanceFields.any (·.isFinal)
  if autowired || inject || byConstructor then
    let injected := cls.fields.filter fun f =>
      f.isMarked ["Autowired", "Inject"] || (f.isFinal && !f.isStatic)
    let evidence :=
      noteIf autowired "@Autowired" ++ noteIf inject "@Inject" ++
        noteIf byConstructor "finalフィールドへのコンストラクタインジェクション" ++
        noteIf (!injected.isEmpty) (counted injected.length "個の注入されるフィールド")
    some (detectionAt .dependencyInjection .modern cls (.highIf (2 ≤ evidence.length)) evidence
      (noteIf (detectAntipatterns && autowired && !byConstructor)
        "フィールドインジェクション（@Autowired）よりコンストラクタインジェクションを推奨"))
  else none

def breakerMarks : List String := ["CircuitBreaker", "HystrixCommand"]

def detectCircuitBreaker : ClassRule := fun cls _ _ =>
  let wholeClass := breakerMarks.any fun mark => cls.annotations.contains mark
  let guarded := cls.ownMethods.filter fun m =>
    breakerMarks.any fun mark => m.annotations.contains mark
  let marked := wholeClass || !guarded.isEmpty
  let named := cls.isNamed ["circuitbreaker"]
  let states := (cls.fields.any fun f => mentions f.type ["state"]) &&
    cls.fields.any fun f => ["OPEN", "CLOSED", "HALF_OPEN"].contains f.name
  if marked || named || states then
    some (detectionAt .circuitBreaker .modern cls (.highIf marked)
      ((if marked then
          ["@CircuitBreakerまたは@HystrixCommandアノテーション",
            if wholeClass then "クラス全体を保護"
            else "保護対象メソッド: " ++ listed (guarded.map (·.name))]
          else []) ++
        noteIf named "名前に'CircuitBreaker'を含む" ++
        noteIf states "OPEN/CLOSED/HALF_OPENの状態")
      [])
  else none

def detectSaga : ClassRule := fun cls _ _ =>
  let compensations := cls.ownMethods.filter fun m => mentions m.name ["compensate", "rollback"]
  if cls.isNamed ["saga"] && !compensations.isEmpty then
    some (detectionAt .saga .modern cls .medium
      ["名前に'Saga'を含む", "補償処理メソッド: " ++ listed (compensations.map (·.name))]
      [])
  else none

def detectCqrs : ClassRule := fun cls _ _ =>
  let answers := cls.ownMethods.any fun m => m.returnType != some "void"
  let isCommand := cls.isNamed ["command"] && !answers
  let isQuery := cls.isNamed ["query"] && answers
  if isCommand || isQuery then
    some (detectionAt .cqrs .modern cls .medium
      (noteIf isCommand "Command（書き込み操作、戻り値なし）" ++
        noteIf isQuery "Query（読み取り操作、データを返す）" ++
        ["コマンドとクエリの責務分離"])
      [])
  else none

def detectEventSourcing : ClassRule := fun cls _ _ =>
  let isEvent := cls.isNamed ["event"]
  let isStore := cls.isNamed ["eventstore"]
  if (isEvent || isStore) && cls.hasMethodLike ["apply"] then
    some (detectionAt .eventSourcing .modern cls .medium
      (noteIf isEvent "Eventクラス" ++ noteIf isStore "EventStore" ++
        ["状態を再構築するapply()メソッド"])
      [])
  else none

def detectUnitOfWork : ClassRule := fun cls _ _ =>
  let named := cls.isNamed ["unitofwork"]
  let transaction := cls.hasMethod "commit" && cls.hasMethod "rollback"
  let registration := cls.methodNames.any (startsWith · "register")
  if named || (transaction && registration) then
    some (detectionAt .unitOfWork .modern cls .medium
      (noteIf named "名前に'UnitOfWork'を含む" ++
        noteIf transaction "commit()とrollback()メソッド" ++
        noteIf registration "変更対象の登録メソッド（register*）")
      [])
  else none

def modernRules : List Rule := [
  .perClass .modern .dependencyInjection detectDependencyInjection,
  .perClass .modern .circuitBreaker detectCircuitBreaker,
  .perClass .modern .saga detectSaga,
  .perClass .modern .cqrs detectCqrs,
  .perClass .modern .eventSourcing detectEventSourcing,
  .perClass .modern .unitOfWork detectUnitOfWork]

end PatternInspector.Java
