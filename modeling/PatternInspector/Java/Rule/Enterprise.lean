import PatternInspector.Java.Rule.Basic

/-!
Rules for patterns of data access and business logic.
-/
namespace PatternInspector.Java

def detectDao : ClassRule := fun cls _ detectAntipatterns =>
  let score := crudScore cls
  if cls.isNamed ["dao", "dataaccess"] && 3 ≤ score then
    some (detectionAt .dao .enterprise cls .high
      ["名前に'DAO'を含む", counted score "種類のCRUD操作", "データアクセスの抽象化"]
      (noteIf (detectAntipatterns && !cls.isInterface) "DAOはインターフェースとして定義すべき"))
  else none

def detectRepository : ClassRule := fun cls _ detectAntipatterns =>
  let named := cls.isNamed ["repository"]
  let base := cls.extends'.filter fun name => hasPart name "Repository"
  let domainMethods := cls.ownMethods.any fun m =>
    startsWith m.name "findBy" || startsWith m.name "getBy" || m.name == "save" ||
      m.name == "delete"
  if named || base.isSome then
    let evidence :=
      noteIf named "名前に'Repository'を含む" ++
        (base.toList.map fun name => name ++ "を継承") ++
        noteIf domainMethods "ドメイン操作メソッド（findBy/save等）"
    some (detectionAt .repository .enterprise cls (.highIf (2 ≤ evidence.length)) evidence
      (noteIf (detectAntipatterns && !cls.isInterface && base.isNone)
        "Repositoryはインターフェースとして定義すべき"))
  else none

def isAccessor (method : Method) : Bool :=
  startsWith method.name "get" || startsWith method.name "set" || startsWith method.name "is"

def isObjectMethod (method : Method) : Bool :=
  ["toString", "hashCode", "equals"].contains method.name

def detectDto : ClassRule := fun cls _ detectAntipatterns =>
  let named := cls.isNamed ["dto", "data"]
  let onlyAccessors := cls.ownMethods.all isAccessor
  let noLogic := cls.ownMethods.all fun m => isAccessor m || isObjectMethod m
  if (named || (onlyAccessors && 2 ≤ cls.fields.length && noLogic)) && !cls.fields.isEmpty then
    some (detectionAt .dto .enterprise cls .high
      (noteIf named "名前に'DTO'または'Data'を含む" ++
        noteIf onlyAccessors "getter/setterのみ" ++
        [counted cls.fields.length "個のデータフィールド"] ++
        noteIf noLogic "ビジネスロジックなし")
      (noteIf (detectAntipatterns && !noLogic) "DTOはビジネスロジックを持つべきではない"))
  else none

def detectServiceLayer : ClassRule := fun cls _ detectAntipatterns =>
  let methods := cls.publicInstanceMethods
  let dependencies := cls.instanceFields
  if (cls.isNamed ["service"] || cls.annotations.contains "Service") && 2 ≤ methods.length then
    some (detectionAt .serviceLayer .enterprise cls .high
      (["名前に'Service'を含む、または@Service", counted methods.length "個のビジネスメソッド"] ++
        noteIf (!dependencies.isEmpty)
          (counted dependencies.length "個の依存オブジェクトを統括"))
      (if detectAntipatterns then
        noteIf (dependencies.any (!·.isFinal)) "依存フィールドはfinal（不変）にすべき" ++
          noteIf (cls.fields.any fun f => mentions f.type ["dao"])
            "サービス層はDAOではなくRepositoryに依存すべき"
      else []))
  else none

def detectValueObject : ClassRule := fun cls _ _ =>
  if !cls.fields.isEmpty && (cls.fields.all fun f => f.isFinal || f.isStatic) &&
      cls.hasMethod "equals" && cls.hasMethod "hashCode" &&
      !cls.methodNames.any (startsWith · "set") then
    some (detectionAt .valueObject .enterprise cls .high
      ["全フィールドがfinal（不変）", "equals/hashCodeを実装", "setterなし"]
      [])
  else none

def detectDataMapper : ClassRule := fun cls _ _ =>
  let conversions := cls.ownMethods.filter fun m => mentions m.name ["map", "to", "from"]
  if cls.isNamed ["mapper"] && 2 ≤ conversions.length then
    some (detectionAt .dataMapper .enterprise cls .medium
      ["名前に'Mapper'を含む", counted conversions.length "個の変換メソッド"]
      [])
  else none

def detectActiveRecord : ClassRule := fun cls _ _ =>
  if 2 ≤ crudScore cls && !cls.fields.isEmpty &&
      cls.ownMethods.any fun m => m.name == "save" && !m.isStatic then
    some (detectionAt .activeRecord .enterprise cls .medium
      ["ドメインデータを保持", "オブジェクト自身がCRUD操作を持つ", "非staticなsave()メソッド"]
      [])
  else none

def enterpriseRules : List Rule := [
  .perClass .enterprise .dao detectDao,
  .perClass .enterprise .repository detectRepository,
  .perClass .enterprise .dto detectDto,
  .perClass .enterprise .serviceLayer detectServiceLayer,
  .perClass .enterprise .valueObject detectValueObject,
  .perClass .enterprise .dataMapper detectDataMapper,
  .perClass .enterprise .activeRecord detectActiveRecord]

end PatternInspector.Java
