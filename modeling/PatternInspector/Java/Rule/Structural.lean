import PatternInspector.Java.Rule.Basic

/-!
Rules for patterns of object composition.
-/
namespace PatternInspector.Java

def detectAdapter : ClassRule := fun cls _ _ =>
  if cls.isNamed ["adapter", "wrapper"] && !cls.fields.isEmpty && !cls.implements.isEmpty then
    some (detectionAt .adapter .structural cls .high
      ["名前に'Adapter'または'Wrapper'を含む",
        "インターフェースを実装: " ++ listed cls.implements,
        "adapteeをコンポジションで保持"]
      [])
  else none

def detectDecorator : ClassRule := fun cls _ _ =>
  let named := cls.isNamed ["decorator"]
  let component := !cls.instanceFields.isEmpty
  if (named || (cls.extends'.isSome && component)) && cls.implements.isEmpty then
    some (detectionAt .decorator .structural cls .medium
      (noteIf named "名前に'Decorator'を含む" ++
        (cls.extends'.toList.map fun base => "基底クラス" ++ base ++ "を継承") ++
        noteIf component "ラップ対象のコンポーネントフィールド")
      [])
  else none

def detectFacade : ClassRule := fun cls _ _ =>
  let named := cls.isNamed ["facade"]
  let subsystems := cls.instanceFields
  let methods := cls.publicInstanceMethods
  if named || (2 ≤ subsystems.length && 2 ≤ methods.length) then
    some (detectionAt .facade .structural cls (.highIf named)
      (noteIf named "名前に'Facade'を含む" ++
        [counted subsystems.length "個のサブシステムを保持",
          counted methods.length "個の簡素化されたpublicメソッド"])
      [])
  else none

def detectProxy : ClassRule := fun cls _ _ =>
  if cls.isNamed ["proxy"] && !cls.implements.isEmpty && cls.instanceFields.any (·.isPrivate) then
    some (detectionAt .proxy .structural cls .high
      ["名前に'Proxy'を含む", "実体と同じインターフェースを実装", "実体を保持するprivateフィールド"]
      [])
  else none

def detectComposite : ClassRule := fun cls _ _ =>
  if cls.fields.any (isCollection ·.type) && cls.hasMethodLike ["add"] &&
      cls.hasMethodLike ["remove"] then
    some (detectionAt .composite .structural cls .medium
      ["子要素のコレクションフィールド", "階層を管理するadd/removeメソッド"]
      [])
  else none

def detectBridge : ClassRule := fun cls _ _ =>
  if cls.isAbstract && cls.fields.any fun f => mentions f.type ["impl"] then
    some (detectionAt .bridge .structural cls .low
      ["抽象クラス", "実装側（Implementor）への参照フィールド", "抽象と実装を分離"]
      [])
  else none

def detectFlyweight : ClassRule := fun cls _ _ =>
  let cache := cls.fields.any fun f =>
    f.isStatic && (hasPart f.type "Map" || hasPart f.type "Cache")
  if cache && cls.ownMethods.any fun m => m.isStatic && mentions m.name ["get"] then
    some (detectionAt .flyweight .structural cls .low
      ["staticキャッシュ（Map）", "再利用のためのstatic getメソッド"]
      [])
  else none

def structuralRules : List Rule := [
  .perClass .structural .adapter detectAdapter,
  .perClass .structural .decorator detectDecorator,
  .perClass .structural .facade detectFacade,
  .perClass .structural .proxy detectProxy,
  .perClass .structural .composite detectComposite,
  .perClass .structural .bridge detectBridge,
  .perClass .structural .flyweight detectFlyweight]

end PatternInspector.Java
