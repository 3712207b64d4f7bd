import BlockSketch.Library.Basic

/-!
# BlockSketch.Library.Bundled

The block library that comes with the program: the shelves of the palette and
the blocks on each.
-/

namespace BlockSketch.Library.Bundled

/-- A shelf of the palette: its title and the colour of its blocks. -/
structure Shelf where
  title : Text
  color : Text

/-- The ports of a bundled block. -/
inductive Wiring where
  -- control comes in and goes on
  | passes
  | starts
  | yields (type : Text)

/-- A port's descriptor. -/
def port (name type : Text) : Value := .dict [("name", .text name), ("type", .text type)]

/-- The dictionary of ports of a bundled block. -/
def Wiring.ports : Wiring → Value
  | .passes => .dict [("inputs", .list [port "in" "flow"]), ("outputs", .list [port "out" "flow"])]
  | .starts => .dict [("inputs", .list []), ("outputs", .list [port "out" "flow"])]
  | .yields type => .dict [("inputs", .list []), ("outputs", .list [port "value" type])]

/-- A parameter without a default. -/
def open_ (name type label : Text) : Fields :=
  [("name", .text name), ("type", .text type), ("label", .text label)]

/-- A parameter with a default. -/
def plain (name type label : Text) (default : Value) : Fields :=
  open_ name type label ++ ([("default", default)] : Fields)

/-- An integer between two bounds. -/
def ranged (name label : Text) (min max default : Int) : Fields :=
  open_ name "int" label ++
    ([("min", .int min), ("max", .int max), ("default", .int default)] : Fields)

/-- One of several words. -/
def choice (name label : Text) (options : List Text) (default : Text) : Fields :=
  open_ name "enum" label ++
    ([("options", .list (options.map .text)), ("default", .text default)] : Fields)

/-- The preset values of parameters: the defaults that they name. -/
def presets (params : List Fields) : Fields :=
  params.filterMap fun (p : Fields) => match Assoc.get? p "name", Assoc.get? p "default" with
    | some (Value.text name), some v => some (name, v)
    | _, _ => none

/-- A palette entry with preset values of its own. -/
def entryWith (shelf : Shelf) (kind target : Text) (wiring : Wiring)
    (id title description : Text) (params : List Fields) (preset : Fields)
    (aliases : List Text) : Value :=
  .dict [("id", .text id), ("title", .text title), ("category", .text shelf.title),
    ("kind", .text kind), ("description", .text description), ("section", .text target),
    ("color", .text shelf.color), ("params", .list (params.map .dict)), ("ports", wiring.ports),
    ("default_params", .dict preset), ("aliases", .list (aliases.map .text))]

def statement (shelf : Shelf) (id title description : Text) (params : List Fields)
    (aliases : List Text) : Value :=
  entryWith shelf "statement" "loop" .passes id title description params (presets params) aliases

def expression (shelf : Shelf) (type id title description : Text) (params : List Fields)
    (aliases : List Text) : Value :=
  entryWith shelf "expression" "loop" (.yields type) id title description params (presets params)
    aliases

/-- The shelf of time blocks. -/
def time : Shelf := ⟨"Время", "#8BC34A"⟩

def timeBlocks : List Value :=
  [
    statement time "cron_schedule" "Cron расписание"
      "Выполняет блок по cron-выражению."
      [plain "expression" "string" "Cron" (.text "* * * * *")]
      ["TIME_CRON"],
    statement time "delay_us" "Пауза, мкс"
      "Микросекундная задержка."
      [ranged "us" "Микросекунды" 0 1000000 100]
      ["TIME_DELAY_MICROS"],
    statement time "delay_ms" "Пауза, мс"
      "Приостанавливает выполнение на указанное время."
      [ranged "ms" "Миллисекунды" 0 60000 1000]
      ["TIME_DELAY"],
    statement time "scheduler_event" "Планировщик задач"
      "Настраивает выполнение блока по расписанию."
      [plain "task" "string" "Задача" (.text "task1"),
       ranged "period_ms" "Период, мс" 1 60000 1000]
      ["TIME_SCHEDULER"],
    statement time "debounce" "Программный антидребезг"
      "Фильтрует дребезг контактов кнопки."
      [ranged "pin" "Пин" 0 53 2,
       ranged "interval_ms" "Интервал, мс" 1 500 50]
      ["TIME_DEBOUNCE"],
    statement time "timer_timeout" "Таймаут"
      "Запускает таймер с отслеживанием истечения времени."
      [plain "name" "string" "Имя" (.text "timer1"),
       ranged "duration_ms" "Длительность, мс" 1 60000 1000,
       plain "repeat" "bool" "Повторять" (.bool false)]
      ["TIME_TIMEOUT"],
    expression time "int" "timer_value" "Текущее время"
      "Получает значение встроенного таймера."
      [choice "source" "Источник" ["millis", "micros", "timestamp"] "millis"]
      ["TIME_MICROS", "TIME_MILLIS", "TIME_TIMESTAMP"]
  ]

/-- The shelf of motion blocks. -/
def motion : Shelf := ⟨"Движение", "#9C27B0"⟩

def motionBlocks : List Value :=
  [
    statement motion "motor_stop" "Остановить мотор"
      "Останавливает мотор и при необходимости включает торможение."
      [choice "port" "Порт" ["M1", "M2", "M3", "M4"] "M1",
       plain "brake" "bool" "Торможение" (.bool true)]
      [],
    statement motion "servo_set" "Повернуть сервопривод"
      "Задаёт угол сервопривода."
      [choice "port" "Порт" ["S1", "S2", "S3", "S4"] "S1",
       ranged "angle" "Угол" 0 180 90]
      ["MOVE_SERVO_SET_01", "MOVE_SERVO_SET_02", "MOVE_SERVO_SET_03", "MOVE_SERVO_SET_04",
       "MOVE_SERVO_SET_05", "MOVE_SERVO_SET_06", "MOVE_SERVO_SET_07", "MOVE_SERVO_SET_08",
       "MOVE_SERVO_SET_09", "MOVE_SERVO_SET_10"],
    statement motion "drive_distance" "Проехать расстояние"
      "Проезжает указанное расстояние с заданной скоростью."
      [ranged "distance_cm" "Расстояние, см" 0 1000 10,
       ranged "speed" "Скорость" 0 100 50,
       choice "direction" "Направление" ["forward", "backward"] "forward"]
      ["MOVE_DRIVE_DISTANCE_01", "MOVE_DRIVE_DISTANCE_02", "MOVE_DRIVE_DISTANCE_03",
       "MOVE_DRIVE_DISTANCE_04", "MOVE_DRIVE_DISTANCE_05"],
    statement motion "motor_set" "Установить скорость мотора"
      "Устанавливает скорость двигателя на выбранном порту."
      [choice "port" "Порт" ["M1", "M2", "M3", "M4"] "M1",
       ranged "speed" "Скорость" 0 100 50,
       choice "direction" "Направление" ["forward", "backward"] "forward"]
      ["MOVE_MOTOR_SPEED_01", "MOVE_MOTOR_SPEED_02", "MOVE_MOTOR_SPEED_03",
       "MOVE_MOTOR_SPEED_04", "MOVE_MOTOR_SPEED_05", "MOVE_MOTOR_SPEED_06",
       "MOVE_MOTOR_SPEED_07", "MOVE_MOTOR_SPEED_08", "MOVE_MOTOR_SPEED_09",
       "MOVE_MOTOR_SPEED_10", "MOVE_MOTOR_SPEED_11", "MOVE_MOTOR_SPEED_12",
       "MOVE_MOTOR_SPEED_13", "MOVE_MOTOR_SPEED_14", "MOVE_MOTOR_SPEED_15",
       "MOVE_MOTOR_SPEED_16", "MOVE_MOTOR_SPEED_17", "MOVE_MOTOR_SPEED_18",
       "MOVE_MOTOR_SPEED_19", "MOVE_MOTOR_SPEED_20"]
  ]

/-- The shelf of diagnostics blocks. -/
def diagnostics : Shelf := ⟨"Диагностика", "#FF5722"⟩

def diagnosticsBlocks : List Value :=
  [
    statement diagnostics "assert_condition" "Assert"
      "Проверяет условие и сообщает об ошибке."
      [plain "condition" "bool" "Условие" (.bool true),
       plain "message" "string" "Сообщение" (.text "")]
      ["DIAG_ASSERT"],
    statement diagnostics "log_message" "Лог"
      "Выводит сообщение в лог с заданным уровнем."
      [choice "level" "Уровень" ["info", "warn", "error"] "info",
       plain "message" "string" "Сообщение" (.text "")]
      ["DIAG_LOG_ERROR", "DIAG_LOG_INFO", "DIAG_LOG_WARN"],
    statement diagnostics "watch_variable" "Наблюдение переменной"
      "Отслеживает изменение переменной."
      [plain "name" "string" "Имя" (.text "value"),
       ranged "interval_ms" "Период, мс" 0 60000 1000]
      ["DIAG_WATCH"],
    statement diagnostics "telemetry_publish" "Отправить телеметрию"
      "Публикует значение для телеметрии."
      [plain "key" "string" "Ключ" (.text "sensor"),
       plain "value" "any" "Значение" (.int 0)]
      ["DIAG_PUBLISH"],
    statement diagnostics "profiler_control" "Профилировщик"
      "Управляет профилировщиком."
      [choice "action" "Действие" ["start", "stop"] "start",
       plain "label" "string" "Метка" (.text "block")]
      ["DIAG_PROFILER_START", "DIAG_PROFILER_STOP"]
  ]

/-- The shelf of communication blocks. -/
def communication : Shelf := ⟨"Коммуникации", "#00BCD4"⟩

def communicationBlocks : List Value :=
  [
    statement communication "i2c_transfer" "I2C операция"
      "Выполняет операцию I2C: инициализация, чтение или запись."
      [choice "mode" "Режим" ["begin", "write", "read"] "begin",
       ranged "address" "Адрес" 0 127 8,
       plain "data" "string" "Данные" (.text ""),
       ranged "length" "Количество" 0 32 1]
      ["COMM_I2C_BEGIN", "COMM_I2C_READ", "COMM_I2C_WRITE"],
    statement communication "mqtt_publish" "MQTT publish"
      "Отправляет сообщение на MQTT брокер."
      [plain "topic" "string" "Топик" (.text "robolab"),
       plain "payload" "string" "Сообщение" (.text ""),
       plain "retain" "bool" "Retain" (.bool false)]
      ["COMM_MQTT_PUBLISH"],
    statement communication "spi_transfer" "SPI операция"
      "Инициализирует или выполняет обмен по SPI."
      [choice "mode" "Режим" ["begin", "transfer"] "begin",
       plain "value" "int" "Данные" (.int 0)]
      ["COMM_SPI_BEGIN", "COMM_SPI_TRANSFER"],
    statement communication "serial_begin" "Serial.begin"
      "Инициализирует последовательный порт."
      [ranged "baud" "Скорость" 300 2000000 9600]
      ["COMM_SERIAL_BEGIN"],
    statement communication "serial_print" "Serial.print"
      "Отправляет текст в последовательный порт."
      [plain "text" "string" "Текст" (.text "Hello"),
       choice "mode" "Режим" ["print", "println"] "print"]
      ["COMM_SERIAL_PRINT", "COMM_SERIAL_PRINTLN"],
    expression communication "string" "serial_read_string" "Serial.readString"
      "Читает строку из последовательного порта."
      []
      ["COMM_SERIAL_READ"],
    statement communication "wifi_connect" "Wi-Fi подключение"
      "Подключается к Wi-Fi сети."
      [plain "ssid" "string" "SSID" (.text "MyWiFi"),
       plain "password" "string" "Пароль" (.text "password")]
      ["COMM_WIFI_CONNECT"],
    statement communication "bluetooth_send" "Отправить по Bluetooth"
      "Передаёт сообщение через Bluetooth-модуль."
      [plain "text" "string" "Текст" (.text "")]
      ["COMM_BT_SEND"]
  ]

/-- The shelf of logic blocks. -/
def logic : Shelf := ⟨"Логика", "#4CAF50"⟩

def logicBlocks : List Value :=
  [
    entryWith logic "statement" "loop" .passes "logic_switch" "Switch"
      "Выполняет ветки в зависимости от значения."
      [open_ "value" "any" "Выражение",
       plain "cases" "string" "Варианты" (.text "")]
      [("value", .null), ("cases", .text "")]
      ["LOGIC_SWITCH"],
    expression logic "bool" "logic_and" "Логическое И"
      "Возвращает истинно, если оба условия истинны."
      [plain "a" "bool" "A" (.bool true),
       plain "b" "bool" "B" (.bool true)]
      ["LOGIC_AND"],
    expression logic "bool" "logic_or" "Логическое ИЛИ"
      "Возвращает истинно, если хотя бы одно условие истинно."
      [plain "a" "bool" "A" (.bool false),
       plain "b" "bool" "B" (.bool false)]
      ["LOGIC_OR"],
    expression logic "bool" "logic_not" "Логическое НЕ"
      "Инвертирует булево значение."
      [plain "value" "bool" "Значение" (.bool false)]
      ["LOGIC_NOT"],
    statement logic "logic_assert" "Проверка условия"
      "Вызывает ошибку, если условие ложно."
      [plain "condition" "bool" "Условие" (.bool true),
       plain "message" "string" "Сообщение" (.text "")]
      ["LOGIC_ASSERT"],
    expression logic "bool" "logic_compare" "Сравнение"
      "Сравнивает два значения выбранным оператором."
      [open_ "left" "any" "Левый операнд",
       open_ "right" "any" "Правый операнд",
       choice "operator" "Оператор" ["==", "!=", ">", ">=", "<", "<="] "=="]
      ["LOGIC_EQ", "LOGIC_GT", "LOGIC_GTE", "LOGIC_LT", "LOGIC_LTE", "LOGIC_NE"],
    expression logic "any" "logic_ternary" "Тернарный оператор"
      "Возвращает одно из значений в зависимости от условия."
      [plain "condition" "bool" "Условие" (.bool true),
       open_ "if_true" "any" "Если да",
       open_ "if_false" "any" "Если нет"]
      ["LOGIC_TERNARY"]
  ]

/-- The shelf of math blocks. -/
def math : Shelf := ⟨"Математика", "#2E7D32"⟩

def mathBlocks : List Value :=
  [
    expression math "number" "math_div" "Деление"
      "Делит одно число на другое."
      [plain "a" "number" "Числитель" (.int 1),
       plain "b" "number" "Знаменатель" (.int 1)]
      ["MATH_DIV"],
    expression math "number" "math_extrema" "Мин/Макс"
      "Находит минимум или максимум двух значений."
      [plain "a" "number" "A" (.int 0),
       plain "b" "number" "B" (.int 0),
       choice "mode" "Режим" ["min", "max"] "min"]
      ["MATH_MAX", "MATH_MIN"],
    expression math "number" "math_abs" "Модуль"
      "Возвращает модуль числа."
      [plain "value" "number" "Число" (.int 0)]
      ["MATH_ABS"],
    expression math "number" "math_clamp" "Ограничение"
      "Ограничивает значение заданным диапазоном."
      [plain "value" "number" "Значение" (.int 0),
       plain "min" "number" "Мин" (.int 0),
       plain "max" "number" "Макс" (.int 100)]
      ["MATH_CLAMP"],
    expression math "int" "math_mod" "Остаток"
      "Возвращает остаток от деления."
      [plain "a" "int" "Делимое" (.int 0),
       plain "b" "int" "Делитель" (.int 1)]
      ["MATH_MOD"],
    expression math "number" "math_map" "Преобразование диапазона"
      "Пересчитывает число из одного диапазона в другой."
      [plain "value" "number" "Значение" (.int 0),
       plain "in_min" "number" "Вход мин" (.int 0),
       plain "in_max" "number" "Вход макс" (.int 1023),
       plain "out_min" "number" "Выход мин" (.int 0),
       plain "out_max" "number" "Выход макс" (.int 255)]
      ["MATH_MAP"],
    expression math "number" "math_mul" "Произведение"
      "Перемножает два числа."
      [plain "a" "number" "A" (.int 1),
       plain "b" "number" "B" (.int 1)]
      ["MATH_MUL"],
    expression math "number" "math_sub" "Разность"
      "Вычитает второе число из первого."
      [plain "a" "number" "A" (.int 0),
       plain "b" "number" "B" (.int 0)]
      ["MATH_SUB"],
    expression math "number" "math_random" "Случайное значение"
      "Возвращает случайное число в заданном диапазоне."
      [choice "mode" "Тип" ["int", "float"] "int",
       plain "min" "number" "Минимум" (.int 0),
       plain "max" "number" "Максимум" (.int 100)]
      ["MATH_RANDOM_FLOAT", "MATH_RANDOM_INT"],
    expression math "number" "math_add" "Сумма"
      "Складывает два числа."
      [plain "a" "number" "A" (.int 0),
       plain "b" "number" "B" (.int 0)]
      ["MATH_ADD"]
  ]

/-- The shelf of storage blocks. -/
def storage : Shelf := ⟨"Переменные", "#F06292"⟩

def storageBlocks : List Value :=
  [
    statement storage "var_change" "Изменить на"
      "Увеличивает или уменьшает переменную на значение."
      [plain "name" "string" "Имя" (.text "value"),
       plain "delta" "number" "Изменение" (.int 1)]
      ["VAR_DEC", "VAR_INC"],
    statement storage "var_toggle" "Инвертировать bool"
      "Инвертирует логическую переменную."
      [plain "name" "string" "Имя" (.text "flag")]
      ["VAR_BOOL_TOGGLE"],
    statement storage "random_seed" "Инициализация random"
      "Устанавливает зерно генератора случайных чисел."
      [plain "seed" "int" "Seed" (.int 1)]
      ["VAR_RANDOM_SEED"],
    statement storage "var_array_access" "Массив"
      "Читает или записывает элемент массива."
      [plain "name" "string" "Имя" (.text "arr"),
       ranged "index" "Индекс" 0 127 0,
       choice "mode" "Режим" ["set", "get"] "set",
       plain "value" "any" "Значение" (.int 0)]
      ["VAR_ARRAY_GET", "VAR_ARRAY_SET"],
    statement storage "var_declare" "Объявить переменную"
      "Создаёт новую переменную указанного типа."
      [plain "name" "string" "Имя" (.text "value"),
       choice "var_type" "Тип" ["int", "float", "bool", "string"] "int",
       plain "initial" "any" "Начальное значение" (.int 0)]
      ["VAR_DECLARE_FLOAT", "VAR_DECLARE_INT"],
    expression storage "any" "var_get" "Получить переменную"
      "Возвращает текущее значение переменной."
      [plain "name" "string" "Имя" (.text "value")]
      ["VAR_GET"],
    statement storage "var_set" "Присвоить"
      "Устанавливает значение переменной."
      [plain "name" "string" "Имя" (.text "value"),
       plain "value" "any" "Значение" (.int 0)]
      ["VAR_RESET", "VAR_SET"],
    statement storage "var_array_declare" "Создать массив"
      "Объявляет массив указанного размера."
      [plain "name" "string" "Имя" (.text "arr"),
       ranged "size" "Размер" 1 128 8,
       choice "var_type" "Тип" ["int", "float", "bool"] "int"]
      ["VAR_ARRAY_DECLARE"]
  ]

/-- The shelf of custom blocks. -/
def custom : Shelf := ⟨"Пользовательские", "#9E9E9E"⟩

def customBlocks : List Value :=
  [
    statement custom "custom_code" "Пользовательский код"
      "Вставляет произвольный код пользователя."
      [plain "code" "string" "Код" (.text "")]
      ["CUSTOM_SNIPPET_01", "CUSTOM_SNIPPET_02", "CUSTOM_SNIPPET_03", "CUSTOM_SNIPPET_04",
       "CUSTOM_SNIPPET_05", "CUSTOM_SNIPPET_06", "CUSTOM_SNIPPET_07"]
  ]

/-- The shelf of light and sound blocks. -/
def lightAndSound : Shelf := ⟨"Свет и звук", "#FFC107"⟩

def lightAndSoundBlocks : List Value :=
  [
    statement lightAndSound "rgb_set" "RGB цвет"
      "Устанавливает цвет RGB-светодиода."
      [ranged "pin" "Пин" 0 53 6,
       ranged "r" "Красный" 0 255 255,
       ranged "g" "Зелёный" 0 255 0,
       ranged "b" "Синий" 0 255 0]
      [],
    statement lightAndSound "tone_play" "Звук"
      "Проигрывает тон на пьезоизлучателе."
      [ranged "pin" "Пин" 0 53 8,
       ranged "frequency" "Частота, Гц" 20 20000 440,
       ranged "duration_ms" "Длительность, мс" 0 10000 500]
      ["LIGHT_TONE_01", "LIGHT_TONE_02", "LIGHT_TONE_03", "LIGHT_TONE_04", "LIGHT_TONE_05"],
    statement lightAndSound "led_set" "Светодиод"
      "Управляет состоянием светодиода на пине."
      [ranged "pin" "Пин" 0 53 13,
       choice "state" "Состояние" ["on", "off"] "on"]
      ["LIGHT_LED_ON_01", "LIGHT_LED_ON_02", "LIGHT_LED_ON_03", "LIGHT_LED_ON_04",
       "LIGHT_LED_ON_05", "LIGHT_LED_ON_06", "LIGHT_LED_ON_07", "LIGHT_LED_ON_08",
       "LIGHT_LED_ON_09", "LIGHT_LED_ON_10", "LIGHT_LED_ON_11", "LIGHT_LED_ON_12",
       "LIGHT_LED_ON_13", "LIGHT_LED_ON_14", "LIGHT_LED_ON_15"]
  ]

/-- The shelf of sensors blocks. -/
def sensors : Shelf := ⟨"Сенсоры", "#03A9F4"⟩

def sensorsBlocks : List Value :=
  [
    expression sensors "int" "analog_read" "Аналоговый вход"
      "Читает значение аналогового входа."
      [ranged "pin" "Пин" 0 15 0]
      ["SENS_ANALOG_READ_01", "SENS_ANALOG_READ_02", "SENS_ANALOG_READ_03",
       "SENS_ANALOG_READ_04", "SENS_ANALOG_READ_05", "SENS_ANALOG_READ_06",
       "SENS_ANALOG_READ_07", "SENS_ANALOG_READ_08", "SENS_ANALOG_READ_09",
       "SENS_ANALOG_READ_10"],
    expression sensors "float" "ultrasonic_read" "Ультразвуковой датчик"
      "Измеряет расстояние ультразвуковым датчиком."
      [ranged "trig_pin" "TRIG" 0 53 12,
       ranged "echo_pin" "ECHO" 0 53 11,
       choice "units" "Единицы" ["cm", "mm"] "cm"]
      ["SENS_ULTRASONIC_01", "SENS_ULTRASONIC_02", "SENS_ULTRASONIC_03", "SENS_ULTRASONIC_04",
       "SENS_ULTRASONIC_05", "SENS_ULTRASONIC_06", "SENS_ULTRASONIC_07", "SENS_ULTRASONIC_08",
       "SENS_ULTRASONIC_09", "SENS_ULTRASONIC_10", "SENS_ULTRASONIC_11", "SENS_ULTRASONIC_12",
       "SENS_ULTRASONIC_13", "SENS_ULTRASONIC_14", "SENS_ULTRASONIC_15"],
    expression sensors "bool" "digital_read" "Цифровой вход"
      "Читает состояние цифрового входа."
      [ranged "pin" "Пин" 0 53 2]
      ["SENS_BUTTON_01", "SENS_BUTTON_02", "SENS_BUTTON_03", "SENS_BUTTON_04", "SENS_BUTTON_05"]
  ]

/-- The shelf of system blocks. -/
def system : Shelf := ⟨"Система", "#546E7A"⟩

def systemBlocks : List Value :=
  [
    statement system "emergency_stop" "Аварийный стоп"
      "Мгновенно останавливает выполнение и выключает моторы."
      [plain "message" "string" "Сообщение" (.text "")]
      ["SYS_EMERGENCY_STOP"],
    statement system "delay_safe" "Безопасная задержка"
      "Выполняет задержку с обслуживанием событий."
      [ranged "ms" "Миллисекунды" 0 60000 1000]
      ["SYS_DELAY_SAFE"],
    statement system "include_header" "Добавить include"
      "Добавляет директиву #include."
      [plain "header" "string" "Файл" (.text "<Arduino.h>")]
      ["SYS_INCLUDE"],
    statement system "section_marker" "Маркер области"
      "Вставляет код в выбранный раздел скетча."
      [choice "section" "Раздел" ["setup", "loop"] "loop",
       plain "code" "string" "Код" (.text "")]
      ["SYS_LOOP_MARK", "SYS_SETUP_MARK"],
    statement system "define_macro" "Определить макрос"
      "Создаёт директиву #define."
      [plain "name" "string" "Имя" (.text "LED_PIN"),
       plain "value" "string" "Значение" (.text "13")]
      ["SYS_DEFINE"],
    statement system "task_schedule" "Расписание задач"
      "Добавляет задачу в системный планировщик."
      [plain "name" "string" "Задача" (.text "task"),
       ranged "period_ms" "Период, мс" 1 60000 1000]
      ["SYS_TASK_SCHEDULE"],
    statement system "pin_mode" "Режим пина"
      "Устанавливает режим работы цифрового пина."
      [ranged "pin" "Пин" 0 53 13,
       choice "mode" "Режим" ["INPUT", "OUTPUT", "INPUT_PULLUP"] "OUTPUT"]
      ["SYS_PIN_MODE"],
    statement system "system_mode" "Режим/профиль"
      "Переключает режим или применяет профиль оборудования."
      [choice "action" "Действие" ["mode", "profile"] "mode",
       plain "value" "string" "Значение" (.text "default")]
      ["SYS_MODE_SELECT", "SYS_PROFILE_APPLY"]
  ]

/-- The shelf of events blocks. -/
def events : Shelf := ⟨"События", "#607D8B"⟩

def eventsBlocks : List Value :=
  [
    entryWith events "event" "events" .starts "every_ms" "Каждые N миллисекунд"
      "Периодический запуск с заданным интервалом."
      [ranged "period_ms" "Интервал, мс" 1 60000 1000]
      [("period_ms", .int 1000)]
      ["TIME_EVERY"],
    entryWith events "event" "events" .starts "on_button" "Кнопка"
      "Запускается при срабатывании кнопки."
      [ranged "pin" "Пин" 0 53 2,
       choice "edge" "Событие" ["pressed", "released"] "pressed"]
      [("pin", .int 2), ("edge", .text "pressed")]
      [],
    entryWith events "event" "events" .starts "on_start" "При старте"
      "Запускается один раз при старте программы."
      []
      []
      []
  ]

/-- The shelf of functions blocks. -/
def functions : Shelf := ⟨"Функции", "#795548"⟩

def functionsBlocks : List Value :=
  [
    statement functions "function_call" "Вызов функции"
      "Вызывает пользовательскую функцию."
      [plain "name" "string" "Имя" (.text "myFunction"),
       plain "args" "string" "Аргументы" (.text "")]
      ["FUNC_CALL_01", "FUNC_CALL_02", "FUNC_CALL_03", "FUNC_CALL_04", "FUNC_CALL_05",
       "FUNC_CALL_06"],
    entryWith functions "statement" "functions" .passes "function_define" "Определить функцию"
      "Создаёт пользовательскую функцию."
      [plain "name" "string" "Имя" (.text "myFunction"),
       plain "args" "string" "Аргументы" (.text "")]
      [("name", .text "myFunction"), ("args", .text "")]
      ["FUNC_DEFINE_01", "FUNC_DEFINE_02", "FUNC_DEFINE_03", "FUNC_DEFINE_04",
       "FUNC_DEFINE_05", "FUNC_DEFINE_06"]
  ]

/-- The bundled library as a document. -/
def document : Value :=
  .list (timeBlocks ++
    motionBlocks ++
    diagnosticsBlocks ++
    communicationBlocks ++
    logicBlocks ++
    mathBlocks ++
    storageBlocks ++
    customBlocks ++
    lightAndSoundBlocks ++
    sensorsBlocks ++
    systemBlocks ++
    eventsBlocks ++
    functionsBlocks)

end BlockSketch.Library.Bundled

namespace BlockSketch.Library

def bundled : Outcome Library := ofDocument .usual Bundled.document

end BlockSketch.Library
