import PatternInspector.Java.Rule.Basic

/-!
Rules for patterns of object creation.
-/
namespace PatternInspector.Java

def detectSingleton : ClassRule := fun cls _ detectAntipatterns =>
  let staticInstance := cls.fields.any fun f => f.isStatic && f.isFinal && f.type == cls.name
  let accessor := cls.ownMethods.find? fun m =>
    mentions m.name ["instance"] && m.isStatic && m.isPublic
  if cls.constructors.any (·.isPrivate) && (staticInstance || accessor.isSome) then
    let unprotected :=
      ((cls.fields.find? fun f => f.isStatic && f.type == cls.name).map (!·.isFinal)).getD false
    some (detectionAt .singleton .creational cls .high
      (["privateコンストラクタ"] ++
        noteIf staticInstance "自クラス型のstatic finalフィールド" ++
        accessor.toList.map fun m => "staticアクセサメソッド " ++ m.name ++ "()")
      (if detectAntipatterns then
        noteIf unprotected "staticインスタンスがfinalではない（スレッドセーフではない）" ++
          noteIf (!cls.hasMethod "clone") "clone()をオーバーライドして複製を防ぐべき" ++
          noteIf (cls.implements.contains "Serializable" && !cls.hasMethod "readResolve")
            "readResolve()のないSerializableはシングルトンを破壊しうる"
      else []))
  else none

def detectBuilder : ClassRule := fun cls classes _ =>
  let builderClass := hasPart cls.name "Builder" || classes.any fun c =>
    c.name == cls.name ++ "Builder" || (c.name == "Builder" && c.outerName == some cls.name)
  let buildMethod := cls.ownMethods.any fun m => m.name == "build" && m.returnType != some "void"
  let fluent := cls.ownMethods.filter fun m =>
    m.returnType == some cls.name && (startsWith m.name "with" || startsWith m.name "set")
  if (builderClass || buildMethod) && 2 ≤ fluent.length then
    some (detectionAt .builder .creational cls .high
      (noteIf builderClass "Builderクラス（内部または同名+Builder）" ++
        noteIf buildMethod "build()メソッド" ++
        [counted fluent.length "個のfluentメソッド（with/setで自身を返す）"])
      [])
  else none

def detectFactoryMethod : ClassRule := fun cls _ _ =>
  match cls.ownMethods.filter fun m =>
    m.isStatic && m.isPublic && m.returnType != some "void" &&
      mentions m.name ["create", "factory", "new", "get"] with
  | [] => none
  | factories =>
      some (detectionAt .factoryMethod .creational cls .medium
        [counted factories.length "個のstaticファクトリメソッド",
          "メソッド: " ++ listed (factories.map (·.name))]
        [])

def detectAbstractFactory : ClassRule := fun cls _ _ =>
  let creators := cls.ownMethods.filter fun m =>
    mentions m.name ["create"] && m.returnType != some "void"
  if (cls.isInterface || cls.isAbstract) && 2 ≤ creators.length then
    some (detectionAt .abstractFactory .creational cls .medium
      [if cls.isInterface then "インターフェース" else "抽象クラス",
        counted creators.length "個のcreateメソッド",
        "関連するオブジェクト群を生成する"]
      [])
  else none

def detectPrototype : ClassRule := fun cls _ _ =>
  if cls.implements.contains "Cloneable" &&
      cls.ownMethods.any fun m => m.name == "clone" && m.isPublic then
    some (detectionAt .prototype .creational cls .high ["Cloneableを実装", "publicなclone()メソッド"] [])
  else none

def creationalRules : List Rule := [
  .perClass .creational .singleton detectSingleton,
  .perClass .creational .builder detectBuilder,
  .perClass .creational .factoryMethod detectFactoryMethod,
  .perClass .creational .abstractFactory detectAbstractFactory,
  .perClass .creational .prototype detectPrototype]

end PatternInspector.Java
