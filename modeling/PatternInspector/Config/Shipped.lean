import PatternInspector.Files.Tree
import PatternInspector.Text.Utf8

/-!
The configuration that is delivered with the inspector, as the files of a configuration directory.
-/
namespace PatternInspector.Config.Shipped

section Contents

def typescriptRules : String := "# TypeScript/JavaScript のスタイル・コードスメルルール
rules:
  naming:
    enabled: true
    severity: warning
    patterns:
      classes: PascalCase
      functions: camelCase
      constants: UPPER_CASE
      variables: camelCase
  solid:
    enabled: true
    severity: warning
    max_function_lines: 50
    max_class_methods: 10
    max_parameters: 5
  code_smells:
    enabled: true
    severity: warning
    detect_duplication: true
    detect_long_methods: true
    detect_god_classes: true
    detect_dead_code: true
"

def javaRules : String := "# Java デザインパターン検出ルール
# 省略したルールは無効（enabled: false）として扱われる
rules:
  creational:
    singleton:
      enabled: true
      severity: warning
      detect_antipatterns: true
    builder:
      enabled: true
      severity: info
      detect_antipatterns: false
    factory_method:
      enabled: true
      severity: info
      detect_antipatterns: false
    abstract_factory:
      enabled: true
      severity: info
      detect_antipatterns: false
    prototype:
      enabled: true
      severity: info
      detect_antipatterns: false
  structural:
    adapter:
      enabled: true
      severity: info
      detect_antipatterns: false
    decorator:
      enabled: true
      severity: info
      detect_antipatterns: false
    facade:
      enabled: true
      severity: info
      detect_antipatterns: false
    proxy:
      enabled: true
      severity: info
      detect_antipatterns: false
    composite:
      enabled: true
      severity: info
      detect_antipatterns: false
    bridge:
      enabled: true
      severity: info
      detect_antipatterns: false
    flyweight:
      enabled: true
      severity: info
      detect_antipatterns: false
  behavioral:
    observer:
      enabled: true
      severity: info
      detect_antipatterns: false
    strategy:
      enabled: true
      severity: info
      detect_antipatterns: false
    template_method:
      enabled: true
      severity: info
      detect_antipatterns: false
    command:
      enabled: true
      severity: info
      detect_antipatterns: false
    state:
      enabled: true
      severity: info
      detect_antipatterns: false
    iterator:
      enabled: true
      severity: info
      detect_antipatterns: false
    chain_of_responsibility:
      enabled: true
      severity: info
      detect_antipatterns: false
    mediator:
      enabled: true
      severity: info
      detect_antipatterns: false
    memento:
      enabled: true
      severity: info
      detect_antipatterns: false
    visitor:
      enabled: true
      severity: info
      detect_antipatterns: false
    interpreter:
      enabled: true
      severity: info
      detect_antipatterns: false
  enterprise:
    dao:
      enabled: true
      severity: info
      detect_antipatterns: true
    repository:
      enabled: true
      severity: info
      detect_antipatterns: false
    dto:
      enabled: true
      severity: info
      detect_antipatterns: false
    service_layer:
      enabled: true
      severity: info
      detect_antipatterns: false
    value_object:
      enabled: true
      severity: info
      detect_antipatterns: false
    data_mapper:
      enabled: true
      severity: info
      detect_antipatterns: false
    active_record:
      enabled: true
      severity: warning
      detect_antipatterns: false
  architectural:
    mvc:
      enabled: true
      severity: info
      detect_antipatterns: false
    front_controller:
      enabled: true
      severity: info
      detect_antipatterns: false
    business_delegate:
      enabled: true
      severity: info
      detect_antipatterns: false
    session_facade:
      enabled: true
      severity: info
      detect_antipatterns: false
    service_locator:
      enabled: true
      severity: warning
      detect_antipatterns: true
    transfer_object_assembler:
      enabled: true
      severity: info
      detect_antipatterns: false
    composite_entity:
      enabled: true
      severity: info
      detect_antipatterns: false
  modern:
    dependency_injection:
      enabled: true
      severity: info
      detect_antipatterns: true
    circuit_breaker:
      enabled: true
      severity: info
      detect_antipatterns: false
    saga:
      enabled: true
      severity: info
      detect_antipatterns: false
    cqrs:
      enabled: true
      severity: info
      detect_antipatterns: false
    event_sourcing:
      enabled: true
      severity: info
      detect_antipatterns: false
    unit_of_work:
      enabled: true
      severity: info
      detect_antipatterns: false
"

def vueRules : String := "# Vue 単一ファイルコンポーネントのパターン・アンチパターンルール
rules:
  composables:
    enabled: true
    enforce_naming: true
    enforce_return_reactive: true
  components:
    enabled: true
    enforce_smart_dumb: true
    max_component_size: 300
  anti_patterns:
    enabled: true
    severity: warning
    detect_mixins: true
    detect_v_if_v_for: true
    detect_prop_mutation: true
    detect_parent_access: true
  best_practices:
    enabled: true
    severity: info
    enforce_prop_validation: true
    enforce_event_naming: true
    enforce_script_setup: true
  template:
    enabled: true
    severity: warning
    enforce_v_for_key: true
"

def javaPatterns : String := "# Java デザインパターンカタログ
patterns:
  singleton:
    name: Singleton
    description: クラスのインスタンスが1つだけであることを保証し、グローバルなアクセス点を提供する
    signals: [privateコンストラクタ, 自身の型のstaticフィールド, static getInstance()]
  builder:
    name: Builder
    description: 複雑なオブジェクトの生成手順を表現から分離する
    signals: [Builderクラス, 自身を返すwith/setメソッド, build()]
  factory-method:
    name: Factory Method
    description: 生成するクラスの決定をサブクラスに委ねる
    signals: [create/make/newで始まるメソッド, 抽象型を返す生成メソッド]
  abstract-factory:
    name: Abstract Factory
    description: 関連するオブジェクト群を具象クラスを指定せずに生成する
    signals: [複数の生成メソッドを持つインターフェース/抽象クラス]
  prototype:
    name: Prototype
    description: 既存インスタンスを複製して新しいオブジェクトを生成する
    signals: [Cloneable, clone()]
  adapter:
    name: Adapter
    description: 互換性のないインターフェースを変換してつなぐ
    signals: [Adapterという名前, インターフェース実装と変換対象フィールド]
  decorator:
    name: Decorator
    description: オブジェクトに動的に責務を追加する
    signals: [同じインターフェースを実装し同じ型のフィールドを保持]
  facade:
    name: Facade
    description: サブシステムに対する単純化された窓口を提供する
    signals: [複数のサブシステムフィールド, 委譲する公開メソッド]
  proxy:
    name: Proxy
    description: 別のオブジェクトへのアクセスを制御する代理を提供する
    signals: [Proxyという名前, 実体への参照フィールド]
  composite:
    name: Composite
    description: 部分と全体を同一視できる木構造を構成する
    signals: [子要素のコレクション, add/removeメソッド]
  bridge:
    name: Bridge
    description: 抽象と実装を分離して独立に変更できるようにする
    signals: [抽象クラスが実装インターフェースのフィールドを保持]
  flyweight:
    name: Flyweight
    description: 多数の細粒度オブジェクトを共有して効率化する
    signals: [Mapによるキャッシュ, 取得メソッド]
  observer:
    name: Observer
    description: 状態変化を依存オブジェクトへ通知する
    signals: [リスナーのコレクション, add/remove/notifyメソッド]
  strategy:
    name: Strategy
    description: アルゴリズム群を定義し交換可能にする
    signals: [Strategyという名前のインターフェース, 戦略フィールドとsetter]
  template-method:
    name: Template Method
    description: アルゴリズムの骨格を定義し一部の手順をサブクラスに委ねる
    signals: [抽象クラス, finalなテンプレートメソッド, 抽象手順メソッド]
  command:
    name: Command
    description: 要求をオブジェクトとしてカプセル化する
    signals: [execute()/undo()]
  state:
    name: State
    description: 内部状態に応じて振る舞いを変える
    signals: [Stateという名前, 状態フィールドと遷移メソッド]
  iterator:
    name: Iterator
    description: 内部表現を公開せずに要素へ順にアクセスする
    signals: [Iterator実装, hasNext()/next()]
  chain-of-responsibility:
    name: Chain of Responsibility
    description: 要求を処理できるオブジェクトが見つかるまで連鎖させる
    signals: [自身の型のnextフィールド, handle/process]
  mediator:
    name: Mediator
    description: オブジェクト間の相互作用をカプセル化する
    signals: [Mediatorという名前, 同僚オブジェクトのコレクション]
  memento:
    name: Memento
    description: カプセル化を破らずに内部状態を保存・復元する
    signals: [Mementoクラス, save/restore, Caretaker]
  visitor:
    name: Visitor
    description: 構造を変えずに要素に対する新しい操作を定義する
    signals: [visitメソッド群, accept(Visitor)]
  interpreter:
    name: Interpreter
    description: 文法規則をクラスで表現し文を解釈する
    signals: [Expressionという名前, interpret()]
  dao:
    name: DAO
    description: データアクセスを抽象化する
    signals: [DAOという名前, CRUDメソッド]
  repository:
    name: Repository
    description: ドメインオブジェクトのコレクションのようにデータへアクセスする
    signals: [Repositoryという名前, find/save/delete]
  dto:
    name: DTO
    description: 層の間でデータを運ぶための入れ物
    signals: [DTOという名前, フィールドとアクセサのみ, Serializable]
  service-layer:
    name: Service Layer
    description: アプリケーションの境界と業務操作を定義する
    signals: [\"@Service\", Serviceという名前, Repository/DAOへの依存]
  value-object:
    name: Value Object
    description: 同一性ではなく値で比較される不変オブジェクト
    signals: [finalフィールドのみ, equals/hashCode, setterなし]
  data-mapper:
    name: Data Mapper
    description: オブジェクトとデータベースの間でデータを移す
    signals: [Mapperという名前, toEntity/toDomain]
  active-record:
    name: Active Record
    description: データベースの行をラップし永続化ロジックを持つ
    signals: [save/delete/findを持つエンティティ]
  mvc:
    name: MVC
    description: モデル・ビュー・コントローラに責務を分割する
    signals: [Controller/View/Modelの各クラスが揃う]
  front-controller:
    name: Front Controller
    description: 全リクエストを単一のハンドラで受け付ける
    signals: [DispatcherまたはFrontControllerという名前, ディスパッチメソッド]
  business-delegate:
    name: Business Delegate
    description: プレゼンテーション層とビジネスサービスを疎結合にする
    signals: [Delegateという名前, サービス参照フィールド]
  session-facade:
    name: Session Facade
    description: ビジネスオブジェクトへのアクセスをセッションBeanで集約する
    signals: [\"@Stateless/@Stateful\", Facadeという名前]
  service-locator:
    name: Service Locator
    description: サービスの取得をレジストリに集約する
    signals: [Locatorという名前, サービスのキャッシュ, getService()]
  transfer-object-assembler:
    name: Transfer Object Assembler
    description: 複数の情報源からTransfer Objectを組み立てる
    signals: [Assemblerという名前, DTOを返すメソッド]
  composite-entity:
    name: Composite Entity
    description: 関連するエンティティをまとめて管理する
    signals: [\"@Entity\", 他のエンティティ型のフィールドを複数保持]
  dependency-injection:
    name: Dependency Injection
    description: 依存オブジェクトを外部から注入する
    signals: [\"@Autowired/@Inject\", コンストラクタ注入]
  circuit-breaker:
    name: Circuit Breaker
    description: 障害の連鎖を防ぐため失敗が続く呼び出しを遮断する
    signals: [\"@CircuitBreaker\", OPEN/CLOSED/HALF_OPEN状態]
  saga:
    name: Saga
    description: 分散トランザクションを補償処理付きの手順の連鎖で実現する
    signals: [Sagaという名前, compensate/rollback]
  cqrs:
    name: CQRS
    description: 更新系と参照系のモデルを分離する
    signals: [Command/Queryという名前, handle()]
  event-sourcing:
    name: Event Sourcing
    description: 状態の変化をイベント列として保存する
    signals: [イベントのリスト, apply/replay]
  unit-of-work:
    name: Unit of Work
    description: 一連の変更をまとめて確定またはロールバックする
    signals: [UnitOfWorkという名前, commit/rollback, register*]
"

/-- Patterns of components, with the section of the rules they belong to. -/
def vuePatterns : String := "# Vue パターン・アンチパターンカタログ
# section は vue.yaml のルールセクション（有効/無効の判定に使う）
patterns:
  - id: composable
    name: Composable
    category: composables
    section: composables
    kind: pattern
    description: useプレフィックスの関数でリアクティブなロジックを再利用する
  - id: composable-usage
    name: Composable Usage
    category: composables
    section: composables
    kind: pattern
    description: コンポーネントからcomposableを呼び出している
  - id: smart-dumb-components
    name: Smart/Dumb Components
    category: components
    section: components
    kind: pattern
    description: ロジックを持つコンテナと表示専用コンポーネントに分ける
  - id: named-slots
    name: Named Slots
    category: components
    section: components
    kind: pattern
    description: 名前付きスロットで複数の差し込み位置を提供する
  - id: scoped-slots
    name: Scoped Slots
    category: components
    section: components
    kind: pattern
    description: スロットへデータを渡して親に描画を委ねる
  - id: renderless-component
    name: Renderless Component
    category: components
    section: components
    kind: pattern
    description: UIを持たずスロット経由でロジックだけを提供する
  - id: provide-inject
    name: Provide/Inject
    category: components
    section: components
    kind: pattern
    description: 祖先から子孫へpropsのバケツリレーなしで値を渡す
  - id: teleport
    name: Teleport
    category: components
    section: components
    kind: pattern
    description: コンポーネントの一部を別のDOM位置に描画する（Vue 3）
  - id: suspense
    name: Suspense
    category: components
    section: components
    kind: pattern
    description: 非同期コンポーネントの読み込み状態を扱う（Vue 3）
  - id: options-api-structure
    name: Options API Structure
    category: options_api
    kind: pattern
    description: data/methods/computedによるVue 2スタイルの構成
  - id: vue2-mixins
    name: Vue 2 Mixins
    category: options_api
    kind: pattern
    description: Vue 2でのmixinによるコード再利用
  - id: vue2-filters
    name: Vue 2 Filters
    category: options_api
    kind: pattern
    description: Vue 2でのfilterによるテンプレート整形
  - id: watchers
    name: Watchers
    category: options_api
    kind: pattern
    description: watchオプションによるリアクティブな値の監視
  - id: mixin-usage
    name: Mixin Usage
    category: anti_patterns
    section: anti_patterns
    kind: anti_pattern
    description: Vue 3でのmixinsの使用（composableを推奨）
  - id: filter-deprecated
    name: Deprecated Filters
    category: migration
    section: anti_patterns
    kind: anti_pattern
    description: Vue 3で削除されたfiltersの使用
  - id: v-if-with-v-for
    name: v-if with v-for
    category: anti_patterns
    section: anti_patterns
    kind: anti_pattern
    description: 同じ要素でのv-ifとv-forの併用
  - id: prop-mutation
    name: Prop Mutation
    category: anti_patterns
    section: anti_patterns
    kind: anti_pattern
    description: 子コンポーネントでのpropの直接変更
  - id: parent-access
    name: Parent Access
    category: anti_patterns
    section: anti_patterns
    kind: anti_pattern
    description: $parent/$children/$rootへの直接アクセス
  - id: god-component
    name: God Component
    category: anti_patterns
    section: anti_patterns
    kind: anti_pattern
    description: スクリプトが大きすぎるコンポーネント
  - id: prop-validation
    name: Prop Validation
    category: best_practices
    section: best_practices
    kind: best_practice
    description: propsに型を指定する
  - id: event-naming
    name: Event Naming
    category: best_practices
    section: best_practices
    kind: best_practice
    description: イベント名をkebab-caseにする
  - id: script-setup-usage
    name: Script Setup
    category: best_practices
    section: best_practices
    kind: best_practice
    description: <script setup>を使用する
  - id: missing-v-for-key
    name: v-for Key
    category: template
    section: template
    kind: best_practice
    description: v-forには:keyを指定する
"

def violationGuide : String := "# 違反ルールの説明と修正方法
violations:
  - rule: naming-class-pascalcase
    language: typescript
    severity: warning
    description: クラス名がPascalCaseではない
    fix: クラス名をPascalCaseに変更する（例 user_service → UserService）
  - rule: naming-function-camelcase
    language: typescript
    severity: warning
    description: 関数名がcamelCaseではない
    fix: 関数名をcamelCaseに変更する
  - rule: naming-method-camelcase
    language: typescript
    severity: warning
    description: メソッド名がcamelCaseではない
    fix: メソッド名をcamelCaseに変更する
  - rule: naming-const-convention
    language: typescript
    severity: info
    description: 定数名がcamelCaseでもUPPER_CASEでもない
    fix: camelCaseまたはUPPER_CASEに揃える
  - rule: solid-too-many-parameters
    language: typescript
    severity: warning
    description: 引数が多すぎる
    fix: 引数をオブジェクトにまとめる
  - rule: solid-function-too-long
    language: typescript
    severity: warning
    description: 関数が長すぎる
    fix: 小さな関数に分割する
  - rule: solid-method-too-long
    language: typescript
    severity: warning
    description: メソッドが長すぎる
    fix: 小さなメソッドに分割する
  - rule: solid-god-class
    language: typescript
    severity: warning
    description: メソッドが多すぎるクラス（単一責任原則違反）
    fix: 責務ごとにクラスを分割する
  - rule: code-smell-unused-variable
    language: typescript
    severity: info
    description: 宣言後に使われていない変数
    fix: 変数を削除する
  - rule: code-smell-duplication
    language: typescript
    severity: info
    description: 同じ行が繰り返し現れる
    fix: 共通処理を関数に抽出する
  - rule: code-smell-lack-of-comments
    language: typescript
    severity: info
    description: コード量に対してコメントが少ない
    fix: 複雑な処理の意図をコメントで補う
  - rule: pattern-<id>
    language: java
    severity: info
    description: デザインパターンを検出した（重大度はルール設定に従う）
    fix: 証拠とアンチパターンを確認し、意図した実装か判断する
  - rule: mixin-usage
    language: vue
    severity: warning
    description: Vue 3でmixinsを使用している
    fix: composableに置き換える
  - rule: filter-deprecated
    language: vue
    severity: warning
    description: Vue 3で削除されたfiltersを使用している
    fix: 算出プロパティまたはメソッドに置き換える
  - rule: v-if-with-v-for
    language: vue
    severity: warning
    description: 同じ要素でv-ifとv-forを併用している
    fix: 算出プロパティで絞り込むか<template>で囲む
  - rule: prop-mutation
    language: vue
    severity: error
    description: propを直接変更している
    fix: イベントをemitして親に更新させる
  - rule: parent-access
    language: vue
    severity: warning
    description: $parent/$children/$rootにアクセスしている
    fix: props・イベント・provide/injectを使う
  - rule: god-component
    language: vue
    severity: warning
    description: コンポーネントが大きすぎる
    fix: composableや子コンポーネントに分割する
  - rule: prop-validation
    language: vue
    severity: info
    description: propsに型が指定されていない
    fix: TypeScriptまたは実行時の型指定を追加する
  - rule: event-naming
    language: vue
    severity: info
    description: イベント名がkebab-caseではない
    fix: kebab-caseの名前にする
  - rule: script-setup-usage
    language: vue
    severity: info
    description: <script setup>を使用していない
    fix: <script setup>へ移行する
  - rule: missing-v-for-key
    language: vue
    severity: warning
    description: v-forに:keyがない
    fix: 一意な:keyを指定する
  - rule: parse-error
    language: all
    severity: error
    description: 構文解析に失敗した
    fix: 示された行の構文エラーを修正する
"

end Contents

def contents : List (String × String) := [
  ("rules/typescript.yaml", typescriptRules),
  ("rules/java.yaml", javaRules),
  ("rules/vue.yaml", vueRules),
  ("catalog/java-patterns.yaml", javaPatterns),
  ("catalog/vue-patterns.yaml", vuePatterns),
  ("catalog/violation-guide.yaml", violationGuide)]

def files : Files.Tree :=
  contents.foldl (fun tree entry => tree.put entry.1 (some (.file (Utf8.encode entry.2)))) {}

end PatternInspector.Config.Shipped
