import PatternInspector.Value.Basic

/-!
The design patterns that are looked for, and the categories into which they fall.
-/
namespace PatternInspector.Java

inductive Category where
  | creational
  | structural
  | behavioral
  | enterprise
  | architectural
  | modern
  deriving DecidableEq

namespace Category

def label : Category → String
  | .creational => "creational"
  | .structural => "structural"
  | .behavioral => "behavioral"
  | .enterprise => "enterprise"
  | .architectural => "architectural"
  | .modern => "modern"

def all : List Category := [.creational, .structural, .behavioral, .enterprise, .architectural, .modern]

def ofLabel? (label : String) : Option Category := all.find? (·.label == label)

end Category

inductive Pattern where
  | singleton
  | builder
  | factoryMethod
  | abstractFactory
  | prototype
  | adapter
  | decorator
  | facade
  | proxy
  | composite
  | bridge
  | flyweight
  | observer
  | strategy
  | templateMethod
  | command
  | state
  | iterator
  | chainOfResponsibility
  | mediator
  | memento
  | visitor
  | interpreter
  | dao
  | repository
  | dto
  | serviceLayer
  | valueObject
  | dataMapper
  | activeRecord
  | mvc
  | frontController
  | businessDelegate
  | sessionFacade
  | serviceLocator
  | transferObjectAssembler
  | compositeEntity
  | dependencyInjection
  | circuitBreaker
  | saga
  | cqrs
  | eventSourcing
  | unitOfWork
  deriving DecidableEq

namespace Pattern

def category : Pattern → Category
  | .singleton | .builder | .factoryMethod | .abstractFactory | .prototype => .creational
  | .adapter | .decorator | .facade | .proxy | .composite | .bridge | .flyweight => .structural
  | .observer | .strategy | .templateMethod | .command | .state | .iterator |
    .chainOfResponsibility | .mediator | .memento | .visitor | .interpreter => .behavioral
  | .dao | .repository | .dto | .serviceLayer | .valueObject | .dataMapper |
    .activeRecord => .enterprise
  | .mvc | .frontController | .businessDelegate | .sessionFacade | .serviceLocator |
    .transferObjectAssembler | .compositeEntity => .architectural
  | .dependencyInjection | .circuitBreaker | .saga | .cqrs | .eventSourcing |
    .unitOfWork => .modern

def label : Pattern → String
  | .singleton => "singleton"
  | .builder => "builder"
  | .factoryMethod => "factory-method"
  | .abstractFactory => "abstract-factory"
  | .prototype => "prototype"
  | .adapter => "adapter"
  | .decorator => "decorator"
  | .facade => "facade"
  | .proxy => "proxy"
  | .composite => "composite"
  | .bridge => "bridge"
  | .flyweight => "flyweight"
  | .observer => "observer"
  | .strategy => "strategy"
  | .templateMethod => "template-method"
  | .command => "command"
  | .state => "state"
  | .iterator => "iterator"
  | .chainOfResponsibility => "chain-of-responsibility"
  | .mediator => "mediator"
  | .memento => "memento"
  | .visitor => "visitor"
  | .interpreter => "interpreter"
  | .dao => "dao"
  | .repository => "repository"
  | .dto => "dto"
  | .serviceLayer => "service-layer"
  | .valueObject => "value-object"
  | .dataMapper => "data-mapper"
  | .activeRecord => "active-record"
  | .mvc => "mvc"
  | .frontController => "front-controller"
  | .businessDelegate => "business-delegate"
  | .sessionFacade => "session-facade"
  | .serviceLocator => "service-locator"
  | .transferObjectAssembler => "transfer-object-assembler"
  | .compositeEntity => "composite-entity"
  | .dependencyInjection => "dependency-injection"
  | .circuitBreaker => "circuit-breaker"
  | .saga => "saga"
  | .cqrs => "cqrs"
  | .eventSourcing => "event-sourcing"
  | .unitOfWork => "unit-of-work"

/-- The key of a pattern in configuration data, where underscores join the words. -/
def key (pattern : Pattern) : String :=
  String.ofList (pattern.label.toList.map fun c => if c == '-' then '_' else c)

end Pattern

end PatternInspector.Java
