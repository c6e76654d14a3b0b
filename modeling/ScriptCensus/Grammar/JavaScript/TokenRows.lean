/-!
# The JavaScript token table

The rows of the token table, packed.
-/

namespace ScriptCensus.Grammar.JavaScript

/-- The rows of the token table, as packed numbers. -/
def tokenRows : String :=
  "XdH3sPd8XSY60Y7XDsQb7b66sRd9b7YBZTEZEXBZUYCZ5Y5b8Y9Z6YAZVYFZFYGa0YHXM2Z7XSY9XAa1YDZGYIZHYJZIYKZJ
  YLZKYMZLYNZMYOYAXCYB1Y1X3XN4XO5ZNX5b9SZOX2Y2XDYCXJY3XEYDXKYE300XKX7YFXFZBX8XPXGYGXH8X1bAYTXHiS6i
  TYBc7X9ZTEXQHsSTZEXBZUYCZ5Y5iUY9Z6YAZVYFZFYGa0YHXM2Z7XSY9XAa1YDZGYIZHYJZIYKZJYLZKYMZLYNZMYOYAXCf
  I1Y1X3XN4XO5ZNX5iVSZOX2Y2XDaUY3YCXJY3XEYDXKYE300XKX7fJXFfKX8XPXGYGXH8X1j0YRc8YSj1XRXHiS6iTYBc7X9
  ZTEXQHsTTZEXBZUYCZ5Y5iUY9Z6YAZVYFZFYGa0YHXM2Z7XSY9XAa1YDZGYIZHYJZIYKZJYLZKYMZLYNZMYOYAXCfI1Y1X3X
  N4XO5ZNX5iVSZOX2Y2XDaUY3YCXJY3XEYDXKYE300XKX7fJXFfKX8XPXGYGXH8X1j0YRc8YSj1XRXHiS6iTYBc7X9ZTEXQHs
  UTZEXBZUYCZ5Y5iUY9Z6YAZVYFZFYGa0YHXM2Z7XSY9XAa1YDZGYIZHYJZIYKZJYLZKYMZLYNZMYOYAXCfI1Y1X3XN4XO5ZN
  X5iVSZOX2Y2XDaUY3YCXJY3XEYDXKYE300XKX7fJXFfKX8XPXGYGXH8X1j0YRc8YSj1XRXHsV6t0YBc7X9ZTEXQHlMTZEXBZ
  UYCZ5Y5t1Y9Z6YAZVYFZFYGa0YHXM2Z7XSY9XAa1YDZGYIZHYJZIYKZJYLZKYMZLYNZMYOYAXCfI1Y1X3XN4XO5ZNX5t2SZO
  X2Y2XDaUY3YCXJY3XEYDXKYE300XKX7fJXFfKX8XPXGYGXH8X1t3YRc8YSt4XRXHt56t6YBc7X9ZTEXQHlMTZEXBZUYCZ5Y5
  t7Y9Z6YAZVYFZFYGa0YHXM2Z7XSY9XAa1YDZGYIZHYJZIYKZJYLZKYMZLYNZMYOYAXCfI1Y1X3XN4XO5ZNX5t8SZOX2Y2XDa
  UY3YCXJY3XEYDXKYE300XKX7fJXFfKX8XPXGYGXH8X1t9YRc8YStAXRXDtBdAtC6tDYBtEaKtFEtGXBtHYCtIY5tJY9tKYAt
  LYFtMYGtNYHtO2tPXStQXAtRYDtSYItTYJtUYKtVYLu0YMu1YNu2YOu3XCu41u5X3u64u75u8X5u9SuAX2uBXDuCXJuDXEuE
  XKuF300uGX7uHXFuIX8uJXGuKXHuLX1uMYTXDb66b7YBuNaKZTEuOTZEXBZUYCZ5Y5b8Y9Z6YAZVYFZFYGa0YHXM2Z7XSY9X
  Aa1YDZGYIZHYJZIYKZJYLZKYMZLYNZMYOYAXCYB1Y1X3XN4XO5ZNX5b9SZOX2Y2XDYCXJY3XEYDXKYE300XKX7YFXFZBX8XP
  XGYGXH8X1bAYTXDb66b7YBuPaKZTEuQTZEXBZUYCZ5Y5b8Y9Z6YAZVYFZFYGa0YHXM2Z7XSY9XAa1YDZGYIZHYJZIYKZJYLZ
  KYMZLYNZMYOYAXCYB1Y1X3XN4XO5ZNX5b9SZOX2Y2XDYCXJY3XEYDXKYE300XKX7YFXFZBX8XPXGYGXH8X1bAYTXDb66b7YB
  uRaKZTEuSTZEXBZUYCZ5Y5b8Y9Z6YAZVYFZFYGa0YHXM2Z7XSY9XAa1YDZGYIZHYJZIYKZJYLZKYMZLYNZMYOYAXCYB1Y1X3
  XN4XO5ZNX5b9SZOX2Y2XDYCXJY3XEYDXKYE300XKX7YFXFZBX8XPXGYGXH8X1bAYTXDb66b7YBuTaKZTEuUTZEXBZUYCZ5Y5
  b8Y9Z6YAZVYFZFYGa0YHXM2Z7XSY9XAa1YDZGYIZHYJZIYKZJYLZKYMZLYNZMYOYAXCYB1Y1X3XN4XO5ZNX5b9SZOX2Y2XDY
  CXJY3XEYDXKYE300XKX7YFXFZBX8XPXGYGXH8X1bAYTXCuVb7b66b7YBZTEZEXBZUYCZ5Y5b8Y9Z6YAZVYFZFYGa0YHXM2Z7
  XSY9XAa1YDZGYIZHYJZIYKZJYLZKYMZLYNZMYOYAXCYB1Y1X3XN4XO5ZNX5b9SZOX2Y2XDYCXJY3XEYDXKYE300XKX7YFXFZ
  BX8XPXGYGXH8X1bAYTXCv0b7b66b7YBZTEZEXBZUYCZ5Y5b8Y9Z6YAZVYFZFYGa0YHXM2Z7XSY9XAa1YDZGYIZHYJZIYKZJY
  LZKYMZLYNZMYOYAXCYB1Y1X3XN4XO5ZNX5b9SZOX2Y2XDYCXJY3XEYDXKYE300XKX7YFXFZBX8XPXGYGXH8X1bAYTXCb66b7
  YBZTEv1TZEXBZUYCZ5Y5b8Y9Z6YAZVYFZFYGa0YHXM2Z7XSY9XAa1YDZGYIZHYJZIYKZJYLZKYMZLYNZMYOYAXCYB1Y1X3XN
  4XO5ZNX5b9SZOX2Y2XDYCXJY3XEYDXKYE300XKX7YFXFZBX8XPXGYGXH8X1bAYTXCb66b7YBZTEv2TZEXBZUYCZ5Y5b8Y9Z6
  YAZVYFZFYGa0YHXM2Z7XSY9XAa1YDZGYIZHYJZIYKZJYLZKYMZLYNZMYOYAXCYB1Y1X3XN4XO5ZNX5b9SZOX2Y2XDYCXJY3X
  EYDXKYE300XKX7YFXFZBX8XPXGYGXH8X1bAYTXCb66b7YBZTEv3TZEXBZUYCZ5Y5b8Y9Z6YAZVYFZFYGa0YHXM2Z7XSY9XAa
  1YDZGYIZHYJZIYKZJYLZKYMZLYNZMYOYAXCYB1Y1X3XN4XO5ZNX5b9SZOX2Y2XDYCXJY3XEYDXKYE300XKX7YFXFZBX8XPXG
  YGXH8X1bAYTXCb66b7YBZTEv4TZEXBZUYCZ5Y5b8Y9Z6YAZVYFZFYGa0YHXM2Z7XSY9XAa1YDZGYIZHYJZIYKZJYLZKYMZLY
  NZMYOYAXCYB1Y1X3XN4XO5ZNX5b9SZOX2Y2XDYCXJY3XEYDXKYE300XKX7YFXFZBX8XPXGYGXH8X1bAYTXCb66b7YBZTEv5T
  ZEXBZUYCZ5Y5b8Y9Z6YAZVYFZFYGa0YHXM2Z7XSY9XAa1YDZGYIZHYJZIYKZJYLZKYMZLYNZMYOYAXCYB1Y1X3XN4XO5ZNX5
  b9SZOX2Y2XDYCXJY3XEYDXKYE300XKX7YFXFZBX8XPXGYGXH8X1bAYTXCb66b7YBZTEv6TZEXBZUYCZ5Y5b8Y9Z6YAZVYFZF
  YGa0YHXM2Z7XSY9XAa1YDZGYIZHYJZIYKZJYLZKYMZLYNZMYOYAXCYB1Y1X3XN4XO5ZNX5b9SZOX2Y2XDYCXJY3XEYDXKYE3
  00XKX7YFXFZBX8XPXGYGXH8X1bAYTXCb66b7YBZTEv7TZEXBZUYCZ5Y5b8Y9Z6YAZVYFZFYGa0YHXM2Z7XSY9XAa1YDZGYIZ
  HYJZIYKZJYLZKYMZLYNZMYOYAXCYB1Y1X3XN4XO5ZNX5b9SZOX2Y2XDYCXJY3XEYDXKYE300XKX7YFXFZBX8XPXGYGXH8X1b
  AYTXCb66b7YBZTEv8TZEXBZUYCZ5Y5b8Y9Z6YAZVYFZFYGa0YHXM2Z7XSY9XAa1YDZGYIZHYJZIYKZJYLZKYMZLYNZMYOYAX
  CYB1Y1X3XN4XO5ZNX5b9SZOX2Y2XDYCXJY3XEYDXKYE300XKX7YFXFZBX8XPXGYGXH8X1bAYTXCb66b7YBZTEv9TZEXBZUYC
  Z5Y5b8Y9Z6YAZVYFZFYGa0YHXM2Z7XSY9XAa1YDZGYIZHYJZIYKZJYLZKYMZLYNZMYOYAXCYB1Y1X3XN4XO5ZNX5b9SZOX2Y
  2XDYCXJY3XEYDXKYE300XKX7YFXFZBX8XPXGYGXH8X1bAYTXCb66b7YBZTEvATZEXBZUYCZ5Y5b8Y9Z6YAZVYFZFYGa0YHXM
  2Z7XSY9XAa1YDZGYIZHYJZIYKZJYLZKYMZLYNZMYOYAXCYB1Y1X3XN4XO5ZNX5b9SZOX2Y2XDYCXJY3XEYDXKYE300XKX7YF
  XFZBX8XPXGYGXH8X1bAYTXBvB6vCYBvDEZEXBvEYCZ5Y5vFY9Z6YAvGYFZFYGvHYHXM2Z7XSY9XAvIYDZGYIZHYJZIYKZJYL
  ZKYMZLYNZMYOYAXCYB1Y1X3XN4XO5lNX5vJSlOX2Y2XDYCXJY3XEYDXKYE300XKX7YFXFZBX8XPXGYGXH8X1vKYTXBb66b7Y
  BZTEZEXBZUYCZ5Y5b8Y9Z6YAZVYFZFYGa0YHXM2Z7XSY9XAa1YDZGYIZHYJZIYKZJYLZKYMZLYNZMYOYAXCYB1Y1X3XN4XO5
  ZNX5b9SZOX2Y2XDYCXJY3XEYDXKYE300XKX7YFXFZBX8XPXGYGXH8X1bAYTTbB6bCXQvLX9bDEfLdBX9XBXA2YHXAfMbMYIX
  CaV1j2X3XB4XC5XDX5bESXEX2Y4XDYJaLXIXEYKaMYL300X6X7XFXFYMX8XGXGbFXH8X1TeJ6eKXQvMX9d5EfLdCcPXBXM2Y
  9XAfMbMYAXCYB1lPX3XN4XO5d6X5g8Sd7X2Y2XDYCaLY3XEYDaMYE300XKX7YFXFZBX8XPXGYGXH8X1Tj36j4XQvNX9d5EfL
  dDcPXBXM2j5XAfMc2j6XCYB1lPX3XN4XO5d6X5j7Sd7X2g9XDj8aLgAXEj9aMjA300XKX7YFXFjBX8XPXGjCXH8X1TgB6gCX
  QvOX9bTEX9XBXA2bKXAfMbMfLdEbLXCbG1j2X3XB4XC5XDX5gDSXEX2cCXDbMaLXIXEbNaMbO300X6X7XFXFbPX8XGXGeLXH
  8X1TjD6jEXQvPX9bTEX9XBXA2jFXAfMc2jGXCbG1j2X3XB4XC5XDX5jHSXEX2fLdFgEXDjIaLgFXEjJaMjK300X6X7XFXFjL
  X8XGXGjMXH8X17d8ZMdLZNdMZOd9ZPcT900jNXV3jOb8jPaB003jQb8jRaB003cUb8cVaB004cUc3cVaB00vQXV4d8c3dLaB
  00lQXV3fNb8fOaB006jSZMlRZNgGZOgHZP00jTXV6jUZMlSZNgIZOgJZP00jVXV6k0ZMlTZNgKZOgLZP00k1XV6k2ZMlUZNg
  MZOgNZP00k3XV6k4ZMlVZNgOZOgPZP00k5XV6k6ZMm0ZNgQZOgRZP00k7XV6k8ZMm1ZNgSZOgTZP00k9XV6kAZMm2ZNgUZOg
  VZP00kBXVTdA6dBXQbTEeMHX9XBXA2YHXAYIXCbG1vRY2XHX3XB4XC5XDX5dCSXEX2Y4XDaUY3YJXJXIXEYKXKYL300X6X7X
  FXFYMX8XGXGdDXH8X1TdA6dBXQbTEeMHX9XBXA2YHXAYIXCbG1vSY2XHX3XB4XC5XDX5dCSXEX2Y4XDaUY3YJXJXIXEYKXKY
  L300X6X7XFXFYMX8XGXGdDXH8X1TdA6dBXQbTEeMHX9XBXA2YHXAYIXCbG1vTY2XHX3XB4XC5XDX5dCSXEX2Y4XDaUY3YJXJ
  XIXEYKXKYL300X6X7XFXFYMX8XGXGdDXH8X1TdA6dBXQbTEeMHX9XBXA2YHXAYIXCbG1vUY2XHX3XB4XC5XDX5dCSXEX2Y4X
  DaUY3YJXJXIXEYKXKYL300X6X7XFXFYMX8XGXGdDXH8X1TdA6dBXQbTEeMHX9XBXA2YHXAYIXCbG1vVY2XHX3XB4XC5XDX5d
  CSXEX2Y4XDaUY3YJXJXIXEYKXKYL300X6X7XFXFYMX8XGXGdDXH8X1TdA6dBXQbTEeMHX9XBXA2YHXAYIXCbG1w0Y2XHX3XB
  4XC5XDX5dCSXEX2Y4XDaUY3YJXJXIXEYKXKYL300X6X7XFXFYMX8XGXGdDXH8X1TeJ6eKb9d5EcPXBZ5Y5m3Y9Z6YAXM2Y9X
  AYAXCYB1Y1X3XN4XO5ZNX5w1SZOX2Y2XDYCXJY3XEYDXKYE300XKX7YFXFZBX8XPXGYGXH8X1TeJ6eKb9d5EcPXBZ5Y5m3Y9
  Z6YAXM2Y9XAYAXCYB1Y1X3XN4XO5lNX5w2SlOX2Y2XDYCXJY3XEYDXKYE300XKX7YFXFZBX8XPXGYGXH8X1Te46e5XQdNEdE
  HX9XBXA2bKXAbLXCdO1w3Y2XHX3XB4XC5XDX5e6SXEX2cCXDcDY3bMXJXIXEbNXKbO300X6X7XFXFbPX8XGXGe7XH8X1Uw46
  w5b9m4EX9XBw6Y5w7Y9w8YAXA2Z7XSYHXAYIXCm51XHX3XB4XC5XDX5w9SXEX2Y4XDYJXJXIXEYKXKYL300X6X7XFXFYMX8X
  GXGwAXH8X1SdA6dBXQbTEwBbAX9XBXA2YHXAYIXCbG1XHX3XB4XC5XDX5dCSXEX2Y4XDaUY3YJXJXIXEYKXKYL300X6X7XFX
  FYMX8XGXGdDXH8X1TwC6wDXQwEEdEHX9XBXA2YHXAYIXCwF1m6Y2XHX3XB4XC5XDX5wGSXEX2Y4XDcDY3YJXJXIXEYKXKYL3
  00X6X7XFXFYMX8XGXGwHXH8X1Te46e5XQdNEdEHX9XBXA2bKXAbLXCdO1m6Y2XHX3XB4XC5XDX5e6SXEX2cCXDcDY3bMXJXI
  XEbNXKbO300X6X7XFXFbPX8XGXGe7XH8X1SdA6dBXQbTEX9XBXA2m7XNYHXAYIXCbG1XHX3XB4XC5XDX5dCSXEX2Y4XDcDY3
  YJXJXIXEYKXKYL300X6X7XFXFYMX8XGXGdDXH8X1Se46e5XQdNEwIbAX9XBXA2bKXAbLXCdO1XHX3XB4XC5XDX5e6SXEX2cC
  XDcDY3bMXJXIXEbNXKbO300X6X7XFXFbPX8XGXGe7XH8X1Se46e5XQdNEX9XBXA2m7XNbKXAbLXCdO1XHX3XB4XC5XDX5e6S
  XEX2cCXDcDY3bMXJXIXEbNXKbO300X6X7XFXFbPX8XGXGe7XH8X1TbB6bCXQbDEb0HX9XBXA2wJXNYHXAYIXCaV1XHX3XB4X
  C5XDX5bESXEX2Y4XDdPY3YJXJXIXEYKXKYL300X6X7XFXFYMX8XGXGbFXH8X1Se46e5XQdNEX9XBXA2m8XNbKXAbLXCdO1XH
  X3XB4XC5XDX5e6SXEX2cCXDcDY3bMXJXIXEbNXKbO300X6X7XFXFbPX8XGXGe7XH8X1SbB6bCXQbDEwKbNX9XBXA2YHXAYIX
  CaV1XHX3XB4XC5XDX5bESXEX2Y4XDdPY3YJXJXIXEYKXKYL300X6X7XFXFYMX8XGXGbFXH8X1Se46e5XQdNEX9XBXA2wLXNb
  KXAbLXCdO1XHX3XB4XC5XDX5e6SXEX2cCXDcDY3bMXJXIXEbNXKbO300X6X7XFXFbPX8XGXGe7XH8X1TbB6bCXQbDEb0HX9X
  BXA2wMXNYHXAYIXCaV1XHX3XB4XC5XDX5bESXEX2Y4XDdPY3YJXJXIXEYKXKYL300X6X7XFXFYMX8XGXGbFXH8X1TbB6bCXQ
  bDEb0HX9XBXA2wNXNYHXAYIXCaV1XHX3XB4XC5XDX5bESXEX2Y4XDdPY3YJXJXIXEYKXKYL300X6X7XFXFYMX8XGXGbFXH8X
  1SbB6bCXQbDEwOTX9XBXA2YHXAYIXCaV1XHX3XB4XC5XDX5bESXEX2Y4XDdPY3YJXJXIXEYKXKYL300X6X7XFXFYMX8XGXGb
  FXH8X1RdA6dBXQbTEX9XBXA2YHXAYIXCbG1XHX3XB4XC5XDX5dCSXEX2Y4XDcDY3YJXJXIXEYKXKYL300X6X7XFXFYMX8XGX
  GdDXH8X1Re46e5XQdNEX9XBXA2bKXAbLXCdO1XHX3XB4XC5XDX5e6SXEX2cCXDcDY3bMXJXIXEbNXKbO300X6X7XFXFbPX8X
  GXGe7XH8X1SbB6bCXQbDEwPTX9XBXA2YHXAYIXCaV1XHX3XB4XC5XDX5bESXEX2Y4XDdPY3YJXJXIXEYKXKYL300X6X7XFXF
  YMX8XGXGbFXH8X1ReJ6eKXQd5EcPXBXM2wQY1Y9XAYAXCYB1Y1X3XN4XO5d6X5g8Sd7X2Y2XDYCXJY3XEYDXKYE300XKX7YF
  XFZBX8XPXGYGXH8X1RbB6bCXQbDEX9XBXA2Z7XSYHXAYIXCaV1XHX3XB4XC5XDX5bESXEX2Y4XDYJXJXIXEYKXKYL300X6X7
  XFXFYMX8XGXGbFXH8X1TwR6wSb9m4EX9XBwTY5wUY9wVYAXA2bKXAbLXCm51XHX3XB4XC5XDX5x0SXEX2cCXDbMXJXIXEbNX
  KbO300X6X7XFXFbPX8XGXGx1XH8X1RbB6bCXQbDEX9XBXA2x2XNYHXAYIXCaV1XHX3XB4XC5XDX5bESXEX2Y4XDYJXJXIXEY
  KXKYL300X6X7XFXFYMX8XGXGbFXH8X1RbB6bCXQbDEX9XBXA2x3XNYHXAYIXCaV1XHX3XB4XC5XDX5bESXEX2Y4XDYJXJXIX
  EYKXKYL300X6X7XFXFYMX8XGXGbFXH8X1RbB6bCXQbDEX9XBXA2x4XNYHXAYIXCaV1XHX3XB4XC5XDX5bESXEX2Y4XDYJXJX
  IXEYKXKYL300X6X7XFXFYMX8XGXGbFXH8X1RbB6bCXQbDEX9XBXA2x5XNYHXAYIXCaV1XHX3XB4XC5XDX5bESXEX2Y4XDYJX
  JXIXEYKXKYL300X6X7XFXFYMX8XGXGbFXH8X1RbB6bCXQbDEX9XBXA2x6XNYHXAYIXCaV1XHX3XB4XC5XDX5bESXEX2Y4XDY
  JXJXIXEYKXKYL300X6X7XFXFYMX8XGXGbFXH8X1RbB6bCXQbDEX9XBXA2x7XNYHXAYIXCaV1XHX3XB4XC5XDX5bESXEX2Y4X
  DYJXJXIXEYKXKYL300X6X7XFXFYMX8XGXGbFXH8X1RbB6bCXQbDEX9XBXA2x8XNYHXAYIXCaV1XHX3XB4XC5XDX5bESXEX2Y
  4XDYJXJXIXEYKXKYL300X6X7XFXFYMX8XGXGbFXH8X1RbB6bCXQbDEX9XBXA2x9XNYHXAYIXCaV1XHX3XB4XC5XDX5bESXEX
  2Y4XDYJXJXIXEYKXKYL300X6X7XFXFYMX8XGXGbFXH8X1QeJ6eKXQd5EcPXBXM2Y9XAYAXCYB1Y1X3XN4XO5d6X5g8Sd7X2Y
  2XDYCXJY3XEYDXKYE300XKX7YFXFZBX8XPXGYGXH8X1RxA6xBXQd5EcPXBXM2bKXAbLXCYB1XHX3m97XN4XO5d6X5xCSd7X2
  Y2XDbMXJY3XEbNXKbO300XKX7YFXFbPX8XPXGmAXH8X1QeJ6eKXQmBEcPXBXM2Y9XAYAXCYB1Y1X3XN4XO5d6X5g8Sd7X2Y2
  XDYCXJY3XEYDXKYE300XKX7YFXFZBX8XPXGYGXH8X1IfPX9h0ZJfQEUaCd0TdQY5dRa0cL2VaNbHXOc29dSX5dTSdUX2YNX4
  X0X6008X1QbB6bCXQbDEX9XBXA2YHXAYIXCaV1XHX3XB4XC5XDX5bESXEX2Y4XDYJXJXIXEYKXKYL300X6X7XFXFYMX8XGXG
  bFXH8X1QbB6bCXQxDEX9XBXA2YHXAYIXCaV1XHX3XB4XC5XDX5bESXEX2Y4XDYJXJXIXEYKXKYL300X6X7XFXFYMX8XGXGbF
  XH8X1RxE6xFXQbDEX9XBXA2bKXAbLXCaV1XHX3kC7XB4XC5XDX5xGSXEX2Y4XDbMXJXIXEbNXKbO300X6X7XFXFbPX8XGXGe
  LXH8X1IfPX9h0ZJfQEUaCd1TdQY5dRa0cL2VaNbHXOc29dSX5dTSdUX2YNX4X0X6008X1QgB6gCXQmCEX9XBXA2bKXAbLXCb
  G1XHX3XB4XC5XDX5gDSXEX2cCXDbMXJXIXEbNXKbO300X6X7XFXFbPX8XGXGeLXH8X1RgB6gCXQbTEX9XBXA2bKXAbLXCbG1
  XHX3kC7XB4XC5XDX5gDSXEX2cCXDbMXJXIXEbNXKbO300X6X7XFXFbPX8XGXGeLXH8X1IfPX9h0ZJfQEUaCd2TdQY5dRa0cL
  2VaNbHXOc29dSX5dTSdUX2YNX4X0X6008X1Qj36j4XQmBEcPXBXM2j5XAj6XCYB1Y1X3XN4XO5d6X5j7Sd7X2g9XDj8XJgAX
  Ej9XKjA300XKX7YFXFjBX8XPXGjCXH8X1RxH6xIXQd5EcPXBXM2bKXAbLXCYB1XHX3m97XN4XO5d6X5xJSd7X2g9XDbMXJgA
  XEbNXKbO300XKX7YFXFbPX8XPXGmAXH8X1QjD6jEXQmCEX9XBXA2jFXAjGXCbG1XHX3XB4XC5XDX5jHSXEX2gEXDjIXJgFXE
  jJXKjK300X6X7XFXFjLX8XGXGjMXH8X1RxK6xLXQbTEX9XBXA2bKXAbLXCbG1XHX3kC7XB4XC5XDX5xMSXEX2gEXDbMXJgFX
  EbNXKbO300X6X7XFXFbPX8XGXGeLXH8X1QxN6xOXQbTEX9XBXA2YHXAYIXCbG1XHX3XB4XC5XDX5xPSXEX2Y4XDYJXJXIXEY
  KXKYL300X6X7XFXFYMX8XGXGxQXH8X1QxR6xSXQdNEX9XBXA2bKXAbLXCdO1XHX3XB4XC5XDX5xTSXEX2cCXDbMXJXIXEbNX
  KbO300X6X7XFXFbPX8XGXGxUXH8X1QgB6gCXQbTEX9XBXA2bKXAbLXCbG1XHX3XB4XC5XDX5gDSXEX2cCXDbMXJXIXEbNXKb
  O300X6X7XFXFbPX8XGXGeLXH8X1QjD6jEXQbTEX9XBXA2jFXAjGXCbG1XHX3XB4XC5XDX5jHSXEX2gEXDjIXJgFXEjJXKjK3
  00X6X7XFXFjLX8XGXGjMXH8X1Qj36j4XQd5EcPXBXM2j5XAj6XCYB1Y1X3XN4XO5d6X5j7Sd7X2g9XDj8XJgAXEj9XKjA300
  XKX7YFXFjBX8XPXGjCXH8X1GfPX9h0ZJfQEUaDdQY5dRa0VaNfRXOcE9dSX5dTSdUX2YNX4X0X6008X1IkD6kEbOeNX9UZQd
  0TkF2VaEbHXOc29dF16475fSX2YNX4X0X600XLX0kGXRIkD6kEbOeNX9UZQd1TkF2VaEbHXOc29dF16475fSX2YNX4X0X600
  XLX0kGXRIkD6kEbOeNX9UZQd2TkF2VaEbHXOc29dF16475fSX2YNX4X0X600XLX0kGXRGfPX9xVZJfQEUaDdQY5dRa0VaNfT
  XOcE9dSX5dTSdUX2YNX4X0X6008X1H9Z1eNX9UZQd0TcL2VaEbHXOc29dF16475cFSYNX4X0X600XLX0a9XRE9XIVbPUZQd0
  TcL2bHXOc29dF16475YNX4X0X600XLX0H9Z1eNX9UZQd1TcL2VaEbHXOc29dF16475cFSYNX4X0X600XLX0a9XRE9XIVbPUZ
  Qd1TcL2bHXOc29dF16475YNX4X0X600XLX0H9Z1eNX9UZQd2TcL2VaEbHXOc29dF16475cFSYNX4X0X600XLX0a9XRE9XIVb
  PUZQd2TcL2bHXOc29dF16475YNX4X0X600XLX0AeO6ePYUVYVUc4aN2e89cMX2cGX4X0X600AeO6ePYUVYVUc4aN2c39cMX2
  cGX4X0X600BeQ6eRYUVYVUbBaN2fRXOcE9fSX2YNX4X0X600CeS6VYVcNEUbQd0TcL2bHXOc29cQ1YNX4X0X600BeO6ePYUV
  YVh1YEaN2h29Ua1cMX2cGX4X0X600AeQ6eRYUVYVUc5aN2cE9h3X2YNX4X0X6005y0XMy1XLy2dGmDc6004cUbCcVbD00y3X
  V4d8bCdLbD00jNXVBh46h5YUVYVh6YEaN2mE9Ua1cMX2dGX4X0X600AeQ6eRYUVYVUc5aN2c39h3X2YNX4X0X600Bh46h5YU
  VYVmFYEaN2c39Ua1cMX2dGX4X0X600CeS6VYVcNEUbQd1TcL2bHXOc29cQ1YNX4X0X600CeS6VYVcNEUbQd2TcL2bHXOc29c
  Q1YNX4X0X600BeQ6eRYUVYVUbBaN2fTXOcE9mGX2YNX4X0X600AmH6mIYUVbEUbBaN2mJ9h3X2h7X4X0X600AmH6mIYUVbEU
  bBaN2c39h3X2h7X4X0X6003cUbCcVbD00BeO6ePYUVYVmKaFaN2e89Ua1cMX2cGX4X0X600CeO6ePYUVbFUdHaN2eTYPh8Z3
  e89cMX2cGX4X0X6003fNbCfObD00AeQ6eRYUVYVaN2Uc7cE9fSX2YNX4X0X6004y4XMy5XLmDc600CeO6ePYUVYVh6HaN2h2
  9Ua1h1Y2cMX2cGX4X0X600Ah46h5YUVYVUdIaN2c39cMX2dGX4X0X600AeQ6eRYUVYVaN2Uc7cE9mGX2YNX4X0X600AeS6VY
  VcNEUc8fRXOcE9cQ1YNX4X0X6003y6dJy7XL004mLXMy8dKy9c9004jSXMlRXL00jTXV4yAdLyBXLyCY1003yDXMyEcA004j
  UXMlSXL00jVXV4k0XMlTXL00k1XV4k2XMlUXL00k3XV4k4XMlVXL00k5XV4k6XMm0XL00k7XV4k8XMm1XL00k9XV4kAXMm2X
  L00kBXV3yFXMyGcA003jOaOjPXL003jQaOjRXL003h9aOhAXL003cUaOcVXL004d8XMdLXL00yHXV3fNaOfOXL004cUXMcVX
  L00yIXVAeS6VYVcNEUc8fTXOcE9cQ1YNX4X0X600Ch46h5YUVbFaN2eTYPh8Z3c39Ua1cMX2dGX4X0X600AmM6mNYUVbEaN2
  mO9Ua1cMX2hBX4X0X600AmM6mNYUVbEaN2c39Ua1cMX2hBX4X0X6003yJXMyKXL003yLXMyMXL003yNXMyOXL003yPXMyQXL
  003yRXMySXL003yTXMyUXL003yVXMz0XL003z1XMz2XL003z3XMz4XL003z5XMz6XL003z7XMz8XL003z9XMzAXL003zBXMz
  CXL003zDXMzEXL003zFXMzGXL003zHXMzIXL00BzJ6VbFcNEUdMeTYPh8Z3e89cQ1cGX4X0X6003zKXMzLXL003zMXMzNXL0
  03zOXMzPXL003zQXMzRXL003zSXMzTXL003zUXMzVXL003-0XM-1XL003-2XM-3XL003-4XM-5XL003-6XM-7XL003-8XM-9
  XL003-AXM-BXL003-CXM-DXL003-EXM-FXL003-GXM-HXL003-IXM-JXL003-KXM-LXL003-MXM-NXL003-OXM-PXL003-QX
  M-RXL003-SXM-TXL003-UXM-VXL003_0XM_1XL003_2XM_3XL003_4XM_5XL003_6XM_7XL003_8XM_9XL003_AXM_BXL003
  _CXM_DXL003_EXM_FXL003_GXM_HXL003_IXM_JXL003_KXM_LXL003_MXM_NXL003_OXM_PXL003_QXM_RXL003_SXM_TXL
  003_UXM_VXL003XW0XMXW1XL003XW2XMXW3XL003XW4XMXW5XL009eS6VYVcNEUdNcE9cQ1YNX4X0X6009X7XUX8aCd0TkH2
  bHXOkI9e9X4XRX6003mPZ7mQa6003mRZ7mSa6003mTZ7mUa6003mVZ7n0a6003n1Z7n2a6003n3Z7n4a6003hAZ7h9a6009X
  7XUX8aCd1TkH2bHXOkI9e9X4XRX6009X7XUX8aCd2TkH2bHXOkI9e9X4XRX6005X7XUX8dOc49XRX600BXW66VbFcNEUdPeT
  YPh8Z3c39XW71dGX4X0X6006X7XUX8aPdH9eUX4XRX6006VXUUaPe89cGX4X0X6006VXUUaPc39cGX4X0X6006X7XUX8aPc4
  9eUX4XRX6005X7XUX8aPdH9XRX6007X7XUX8aDfRXOfU9e9X4XRX6007VXUUaDfRXOcE9YNX4X0X6007VXUh1YEUZ4h29cGX
  4X0X6007X7XUeVYEX8Z4f09eUX4XRX6006VXUUaQcE9YNX4X0X6006X7XUX8aQfU9e9X4XRX6003hAZ7h9a7003mPZ7mQa70
  03mRZ7mSa7003mTZ7mUa7003mVZ7n0a7003n1Z7n2a7003n3Z7n4a7003XW8aGXW9aH003XWAaGXWBaH003XWCaGXWDaH003
  XWEaGXWFaH003XWGaGXWHaH007VXUh6YEUZ4mE9dGX4X0X6007X7XUdIYEX8Z4kJ9hCX4XRX6006VXUUaQc39YNX4X0X6007
  VXUmFYEUZ4c39dGX4X0X6007X7XUfVYEX8Z4c49hCX4XRX6003hAaGh9aH005X7XUX8dQc49XRX6006X7XUX8aQc49e9X4XR
  X6007X7XUX8aDfTXOfU9e9X4XRX6007VXUUaDfTXOcE9YNX4X0X6006VXUUaRmJ9h7X4X0X6006VXUUaRc39h7X4X0X6006X
  7XUX8aRc49n5X4XRX6006X7XUX8aRkK9n5X4XRX6005X7XUX8aQfU9XRX6006X7XUeVYEX8Z4f09XRX6007VXUmKaFUZ4e89
  cGX4X0X6007X7XUkLaFX8Z4dH9eUX4XRX6008VaIUbReTYPn6Z3e89cGX4X0X6008X7aIX8bRf1YPdVZ3dH9eUX4XRX6006X
  7XUdIYEX8Z4kJ9XRX6006X7XUfVYEX8Z4c49XRX6005X7XUX8aRkK9XRX6006X7XUkLaFX8Z4dH9XRX6007X7aIX8bRf1YPd
  VZ3dH9XRX6008VXUh6HUZ4h29h1Y2cGX4X0X6008X7XUdIHX8Z4f09eVY2eUX4XRX6006VXUUcBc39dGX4X0X6006X7XUX8c
  Bc49hCX4XRX6007X7XUdIHX8Z4f09eVY2XRX6008VaIUZ4eTYPn6Z3c39dGX4X0X6008X7aIX8Z4f1YPdVZ3c49hCX4XRX60
  06VXUUaSmO9hBX4X0X6006X7XUX8aSkM9n7X4XRX6006VXUUaSc39hBX4X0X6006X7XUX8aSc49n7X4XRX6007X7aIX8Z4f1
  YPdVZ3c49XRX6005X7XUX8aSkM9XRX6008hDJhEdR123127n8800X6X75hDJhEdS1200X6X75dLJd8XPcT900n9XV7f2Jf3d
  T3127n8800X6X74f2Jf3dU00X6X78nAJnBcC1231274853008nCJnDcC1231274853007nEJnFdV12312748004dLJd8XP00
  n9XV4cVJcUXP00XWIXV4X7JX8XPc49005dMJd9bSnGYEcT9003gGJgHXP003gIJgJXP003gKJgLXP003gMJgNXP003gOJgPX
  P003gQJgRXP003gSJgTXP003gUJgVXP003X7JX8XP003f2Jf3XP005f4Jf5bSnHYEf69003nIJnJXP003nKJnLXP003nMJnN
  XP003nOJnPXP003hFJhGXP003nQJeAXP005f7JeBbSnRYEf89003nSJkNXP003nTJnUXP003kOJkPXP003hHJhIXP003jPJj
  OXP003nVJo0XP003o1Jo2XP003o3Jo4XP004hJcDhKe000o5bG3o6Jo7XP003o8JeCXP003kQJkRXP003o9JoAXP003hLJhM
  XP003hNJhOXP003oBJeDXP003oCJoDXP003oEJkSXP003oFJkTXP003oGJoHXP003hPJhQXP003jRJjQXP003oIJeEXP003o
  JJoKXP003oLJeFXP003oMJeGXP003oNJoOXP003oPJoQXP003kUJkVXP003hRJhSXP003oRJoSXP003oTJoUXP003l0Jl1XP
  003oVJhTXP003cVJcUXP003p0JhUXP003fOJfNXP008hDJhEe1K2P1N7p1800XKX75hDJhEe2K200XKX74X7JX8bHdH900OD
  Bg0ZC12JK312748SQX1RGFHGONQPROFDECCAIILLMMX2U5300X3VODBf9ZC12JK312748SQX1RGFHGONQPROFDECCAIILLMM
  X2U5300X3VODBeAZC12JK312748SQX1RGFHGONQPROFDECCAIILLMMX2U5300X3VODBg1ZC12JK312748SQX1RGFHGONQPRO
  FDECCAIILLMMX2U5300X3VODBeHZC12JK312748SQX1RGFHGONQPROFDECCAIILLMMX2U5300X3VODBeCZC12JK312748SQX
  1RGFHGONQPROFDECCAIILLMMX2U5300X3VEDBX5e312XJaT312748GFHGFDECCA53009XJJX5e412312748CA5300KDBX5cE
  12JK312748GFHGONQPROFDECCAIILLMM5300LDBX5e512JK312748SQGFHGONQPROFDECCAIILLMM5300CDBX5cF12XJaU31
  2748FDECCA5300IDBX5cG12JK312748GFHGXJaVFDECCAIILLMM5300JDBX5cG12JK312748GFHGONXJOFDECCAIILLMM530
  0KDBX5cE12JK312748GFHGONQPXJOFDECCAIILLMM5300BDBX5cF12XJb0312748ECCA5300GDBX5e612JK312748GFHGXJb
  1FDECCAII5300MDBX5e712JK312748SQX1RGFHGONQPROFDECCAIILLMM5300ODBg2ZC12JK312748SQX1RGFHGONQPROFDE
  CCAIILLMMX2U5300X3VODBeDZC12JK312748SQX1RGFHGONQPROFDECCAIILLMMX2U5300X3VODBeEZC12JK312748SQX1RG
  FHGONQPROFDECCAIILLMMX2U5300X3VODBeFZC12JK312748SQX1RGFHGONQPROFDECCAIILLMMX2U5300X3VODBeGZC12JK
  312748SQX1RGFHGONQPROFDECCAIILLMMX2U5300X3VODBg3ZC12JK312748SQX1RGFHGONQPROFDECCAIILLMMX2U5300X3
  V4f4Jf5bHf69004f7JeBbHf89004dMJd9bHcT9007f2Jf3e8P1N7p1800XKX74f2Jf3e900XKX78nAJnBcHK2P1N7T8X4300
  4f4Jf5XTf69003oVJhTcI008nCJnDcHK2P1N7T8X43007nEJnFeAK2P1N7T8004f7JeBXTf89003p0JhUcI006dMJd9Z8d8Z
  RcT900jNXV4dMJd9XTcT900ODBhVeB12JK312748SQX1RGFHGONQPROFDECCAIILLMMX2U5300X3V5dLJd8eCcT900lQXV4X
  7JX8XTc49003X7JX8XT004X7JX8eDfU9003f2Jf3XT005X7JeVYEX8ZDf0900OXVBg0ZEK2YSKP1N7T8ZPQa2RYOFYPGZ3NZ
  8PZCOY5DY0CXTAY6IYULYVMaAUX4300aBV3nIJnJXT003nKJnLXT003nMJnNXT003nOJnPXT003hFJhGXT00OXVBf9ZEK2YS
  KP1N7T8ZPQa2RYOFYPGZ3NZ8PZCOY5DY0CXTAY6IYULYVMaAUX4300aBV3nQJeAXT00OXVBeAZEK2YSKP1N7T8ZPQa2RYOFY
  PGZ3NZ8PZCOY5DY0CXTAY6IYULYVMaAUX4300aBV3nSJkNXT003nTJnUXT00OXVBg1ZEK2YSKP1N7T8ZPQa2RYOFYPGZ3NZ8
  PZCOY5DY0CXTAY6IYULYVMaAUX4300aBV3kOJkPXT003hHJhIXT003nVJo0XT003o1Jo2XT003o3Jo4XT004hJcDhKeE00p2
  bG3o6Jo7XT00OXVBeHZEK2YSKP1N7T8ZPQa2RYOFYPGZ3NZ8PZCOY5DY0CXTAY6IYULYVMaAUX4300aBV3o8JeCXT00OXVBe
  CZEK2YSKP1N7T8ZPQa2RYOFYPGZ3NZ8PZCOY5DY0CXTAY6IYULYVMaAUX4300aBVEXVBX5eFK2XJaTP1N7T8YOFYPGY5DY0C
  XTAX43003kQJkRXT009XJJX5eGK2P1N7T8XTAX4300KXVBX5cJK2YSKP1N7T8YOFYPGZ3NZ8PZCOY5DY0CXTAY6IYULYVMX4
  300LXVBX5eHK2YSKP1N7T8ZPQYOFYPGZ3NZ8PZCOY5DY0CXTAY6IYULYVMX4300CXVBX5cKK2XJaUP1N7T8Y5DY0CXTAX430
  0IXVBX5cLK2YSKP1N7T8YOFYPGXJaVY5DY0CXTAY6IYULYVMX4300JXVBX5cLK2YSKP1N7T8YOFYPGZ3NXJOY5DY0CXTAY6I
  YULYVMX4300KXVBX5cJK2YSKP1N7T8YOFYPGZ3NZ8PXJOY5DY0CXTAY6IYULYVMX4300BXVBX5cKK2XJb0P1N7T8Y0CXTAX4
  300GXVBX5eIK2YSKP1N7T8YOFYPGXJb1Y5DY0CXTAY6IX4300MXVBX5eJK2YSKP1N7T8ZPQa2RYOFYPGZ3NZ8PZCOY5DY0CX
  TAY6IYULYVMX43003o9JoAXT003hLJhMXT003hNJhOXT00OXVBg2ZEK2YSKP1N7T8ZPQa2RYOFYPGZ3NZ8PZCOY5DY0CXTAY
  6IYULYVMaAUX4300aBV3oBJeDXT00OXVBeDZEK2YSKP1N7T8ZPQa2RYOFYPGZ3NZ8PZCOY5DY0CXTAY6IYULYVMaAUX4300a
  BV3oCJoDXT003oEJkSXT003oFJkTXT003oGJoHXT003hPJhQXT003oIJeEXT00OXVBeEZEK2YSKP1N7T8ZPQa2RYOFYPGZ3N
  Z8PZCOY5DY0CXTAY6IYULYVMaAUX4300aBV3oJJoKXT003oLJeFXT00OXVBeFZEK2YSKP1N7T8ZPQa2RYOFYPGZ3NZ8PZCOY
  5DY0CXTAY6IYULYVMaAUX4300aBV3oMJeGXT00OXVBeGZEK2YSKP1N7T8ZPQa2RYOFYPGZ3NZ8PZCOY5DY0CXTAY6IYULYVM
  aAUX4300aBV3oNJoOXT003oPJoQXT003kUJkVXT003hRJhSXT003oRJoSXT003oTJoUXT003l0Jl1XT00OXVBg3ZEK2YSKP1
  N7T8ZPQa2RYOFYPGZ3NZ8PZCOY5DY0CXTAY6IYULYVMaAUX4300aBV5X7JdIYEX8ZDkJ9005X7JfVYEX8ZDc49005gGJgHZ8
  jSZR00jTXV3gGJgHXT005gIJgJZ8jUZR00jVXV5gKJgLZ8k0ZR00k1XV5gMJgNZ8k2ZR00k3XV3gIJgJXT003gKJgLXT003g
  MJgNXT005gOJgPZ8k4ZR00k5XV5gQJgRZ8k6ZR00k7XV5gSJgTZ8k8ZR00k9XV3gOJgPXT003gQJgRXT003gSJgTXT005gUJ
  gVZ8kAZR00kBXV3gUJgVXT004hJcMhKeK00p2bG5f4Jg4YEf5ZDf69005f7Jg5YEeBZDf89005dMJg6YEd9ZDcT900Oa3Bf9
  ZFK2aOKP1N7T8c5Qc9RaFFaGGbINbQPbUOaCDa4CZQAaHIb1Lb2McHUX4300cIVOa3BeAZFK2aOKP1N7T8c5Qc9RaFFaGGbI
  NbQPbUOaCDa4CZQAaHIb1Lb2McHUX4300cIVOa3Bg1ZFK2aOKP1N7T8c5Qc9RaFFaGGbINbQPbUOaCDa4CZQAaHIb1Lb2McH
  UX4300cIVOa3BeHZFK2aOKP1N7T8c5Qc9RaFFaGGbINbQPbUOaCDa4CZQAaHIb1Lb2McHUX4300cIVOa3BeCZFK2aOKP1N7T
  8c5Qc9RaFFaGGbINbQPbUOaCDa4CZQAaHIb1Lb2McHUX4300cIVEa3BX5eLK2XJaTP1N7T8aFFaGGaCDa4CZQAX43009XJJX
  5eMK2P1N7T8ZQAX4300Ka3BX5cNK2aOKP1N7T8aFFaGGbINbQPbUOaCDa4CZQAaHIb1Lb2MX4300La3BX5eNK2aOKP1N7T8c
  5QaFFaGGbINbQPbUOaCDa4CZQAaHIb1Lb2MX4300Ca3BX5cOK2XJaUP1N7T8aCDa4CZQAX4300Ia3BX5cPK2aOKP1N7T8aFF
  aGGXJaVaCDa4CZQAaHIb1Lb2MX4300Ja3BX5cPK2aOKP1N7T8aFFaGGbINXJOaCDa4CZQAaHIb1Lb2MX4300Ka3BX5cNK2aO
  KP1N7T8aFFaGGbINbQPXJOaCDa4CZQAaHIb1Lb2MX4300Ba3BX5cOK2XJb0P1N7T8a4CZQAX4300Ga3BX5eOK2aOKP1N7T8a
  FFaGGXJb1aCDa4CZQAaHIX4300Ma3BX5ePK2aOKP1N7T8c5Qc9RaFFaGGbINbQPbUOaCDa4CZQAaHIb1Lb2MX4300Oa3Bg2Z
  FK2aOKP1N7T8c5Qc9RaFFaGGbINbQPbUOaCDa4CZQAaHIb1Lb2McHUX4300cIVOa3BeDZFK2aOKP1N7T8c5Qc9RaFFaGGbIN
  bQPbUOaCDa4CZQAaHIb1Lb2McHUX4300cIVOa3BeEZFK2aOKP1N7T8c5Qc9RaFFaGGbINbQPbUOaCDa4CZQAaHIb1Lb2McHU
  X4300cIVOa3BeFZFK2aOKP1N7T8c5Qc9RaFFaGGbINbQPbUOaCDa4CZQAaHIb1Lb2McHUX4300cIVOa3BeGZFK2aOKP1N7T8
  c5Qc9RaFFaGGbINbQPbUOaCDa4CZQAaHIb1Lb2McHUX4300cIVOa3Bg3ZFK2aOKP1N7T8c5Qc9RaFFaGGbINbQPbUOaCDa4C
  ZQAaHIb1Lb2McHUX4300cIV4X7JX8eQkK900Oa3Bg0ZFK2aOKP1N7T8c5Qc9RaFFaGGbINbQPbUOaCDa4CZQAaHIb1Lb2McH
  UX4300cIVPXVBi0HK2p3Y1YSKP1N7T8ZPQa2RYOFYPGZ3NZ8PZCOY5DY0CXTAY6IYULYVMaAUX4300aBV5X7JX8cQXWJ2p4X
  O00PXVBi0HK2p5Y1YSKP1N7T8ZPQa2RYOFYPGZ3NZ8PZCOY5DY0CXTAY6IYULYVMaAUX4300aBVPXVBi0HK2p6Y1YSKP1N7T
  8ZPQa2RYOFYPGZ3NZ8PZCOY5DY0CXTAY6IYULYVMaAUX4300aBV5X7JkLaFX8ZDdH900ODBXWKYE12JK312748SQX1RGFHGO
  NQPROFDECCAIILLMMX2U5300X3V6X7b2X8Z8f1YPdVZ3dH900QXVBXWLHl2TK2f9Y1YSKP1N7T8ZPQa2RYOFYPGZ3NZ8PZCO
  Y5DY0CXTAY6IYULYVMaAUX4300aBV5kOJkPcQXWM2l3XO00QXVBXWNHl2TK2eHY1YSKP1N7T8ZPQa2RYOFYPGZ3NZ8PZCOY5
  DY0CXTAY6IYULYVMaAUX4300aBVQXVBXWOHp7TK2eHY1YSKP1N7T8ZPQa2RYOFYPGZ3NZ8PZCOY5DY0CXTAY6IYULYVMaAUX
  4300aBVODBXWPYE12JK312748SQX1RGFHGONQPROFDECCAIILLMMX2U5300X3VPa3Bl4eRK2XWQYPP1aOcRN7T8c5Qc9RaFF
  aGGbINbQPbUOaCDa4CZQAaHIb1Lb2McHUX4300cIV6f4b2f5Z8XWRYPg4Z3f69006f7b2eBZ8XWSYPg5Z3f89006dMb2d9Z8
  XWTYPg6Z3cT900PDBXUH12p8XNJK312748SQX1RGFHGONQPROFDECCAIILLMMX2U5300X3VPDBb0H12JK31p9Y22748SQX1R
  GFHGONQPROFDECCAIILLMMX2U5300X3VPDBb0H12JK31XWUY22748SQX1RGFHGONQPROFDECCAIILLMMX2U5300X3VPDBXUH
  12pAXSJK312748SQX1RGFHGONQPROFDECCAIILLMMX2U5300X3VODBl5bN12JK312748SQX1RGFHGONQPROFDECCAIILLMMX
  2U5300X3VPDBXUHpBT12JK312748SQX1RGFHGONQPROFDECCAIILLMMX2U5300X3VPDBb0H12pCXNJK312748SQX1RGFHGON
  QPROFDECCAIILLMMX2U5300X3VOXVBhVa8K2YSKP1N7T8ZPQa2RYOFYPGZ3NZ8PZCOY5DY0CXTAY6IYULYVMaAUX4300aBVP
  DBXUH12JK31pDY22748SQX1RGFHGONQPROFDECCAIILLMMX2U5300X3VPDBXUHpET12JK312748SQX1RGFHGONQPROFDECCA
  IILLMMX2U5300X3VOXVBl4a8K2YSKP1N7T8ZPQa2RYOFYPGZ3NZ8PZCOY5DY0CXTAY6IYULYVMaAUX4300aBVPDBXUH12pFX
  SJK312748SQX1RGFHGONQPROFDECCAIILLMMX2U5300X3VPDBXUH12JK31pGY22748SQX1RGFHGONQPROFDECCAIILLMMX2U
  5300X3VPDBXUH12JKpHXO312748SQX1RGFHGONQPROFDECCAIILLMMX2U5300X3VPDBXUH12pIXNJK312748SQX1RGFHGONQ
  PROFDECCAIILLMMX2U5300X3VPDBXUH12pJXNJK312748SQX1RGFHGONQPROFDECCAIILLMMX2U5300X3VPDBXUH12pKXNJK
  312748SQX1RGFHGONQPROFDECCAIILLMMX2U5300X3VPDBXUH12pLXSJK312748SQX1RGFHGONQPROFDECCAIILLMMX2U530
  0X3VPDBXUH12pMXNJK312748SQX1RGFHGONQPROFDECCAIILLMMX2U5300X3VPDBXUH12pNXNJK312748SQX1RGFHGONQPRO
  FDECCAIILLMMX2U5300X3VPDBXUH12pOXNJK312748SQX1RGFHGONQPROFDECCAIILLMMX2U5300X3VPDBXUH12XWVXNJK31
  2748SQX1RGFHGONQPROFDECCAIILLMMX2U5300X3VPDBXUH12XX0XNJK312748SQX1RGFHGONQPROFDECCAIILLMMX2U5300
  X3VPDBXUH12pPXNJK312748SQX1RGFHGONQPROFDECCAIILLMMX2U5300X3VPDBXUH12pQXNJK312748SQX1RGFHGONQPROF
  DECCAIILLMMX2U5300X3V6X7JdIHX8ZDf09eVY2006f4Jg4Hf5ZDf69nHY2006f7Jg5HeBZDf89nRY2006dMJg6Hd9ZDcT9n
  GY200PDBXUH12pRXNJK312748SQX1RGFHGONQPROFDECCAIILLMMX2U5300X3VPDBb0H12JK31pSY22748SQX1RGFHGONQPR
  OFDECCAIILLMMX2U5300X3VPDBb0H12pTXNJK312748SQX1RGFHGONQPROFDECCAIILLMMX2U5300X3VPDBXUH12JK31pUY2
  2748SQX1RGFHGONQPROFDECCAIILLMMX2U5300X3VPDBXUHpVT12JK312748SQX1RGFHGONQPROFDECCAIILLMMX2U5300X3
  VPDBXUH12JK31q0Y22748SQX1RGFHGONQPROFDECCAIILLMMX2U5300X3VOYQBf9ZG12Z4K312748aDQaIRZ0FZ1GZDNZRPa
  5OYTDYRCY7AZ2IZ9LZAMaPU5300aQVOYQBeAZG12Z4K312748aDQaIRZ0FZ1GZDNZRPa5OYTDYRCY7AZ2IZ9LZAMaPU5300a
  QVOYQBg1ZG12Z4K312748aDQaIRZ0FZ1GZDNZRPa5OYTDYRCY7AZ2IZ9LZAMaPU5300aQVOYQBeHZG12Z4K312748aDQaIRZ
  0FZ1GZDNZRPa5OYTDYRCY7AZ2IZ9LZAMaPU5300aQVOYQBeCZG12Z4K312748aDQaIRZ0FZ1GZDNZRPa5OYTDYRCY7AZ2IZ9
  LZAMaPU5300aQVEYQBX5eS12XJaT312748Z0FZ1GYTDYRCY7A53009XJJX5eT12312748Y7A5300KYQBX5cS12Z4K312748Z
  0FZ1GZDNZRPa5OYTDYRCY7AZ2IZ9LZAM5300LYQBX5eU12Z4K312748aDQZ0FZ1GZDNZRPa5OYTDYRCY7AZ2IZ9LZAM5300C
  YQBX5cT12XJaU312748YTDYRCY7A5300IYQBX5cU12Z4K312748Z0FZ1GXJaVYTDYRCY7AZ2IZ9LZAM5300JYQBX5cU12Z4K
  312748Z0FZ1GZDNXJOYTDYRCY7AZ2IZ9LZAM5300KYQBX5cS12Z4K312748Z0FZ1GZDNZRPXJOYTDYRCY7AZ2IZ9LZAM5300
  BYQBX5cT12XJb0312748YRCY7A5300GYQBX5eV12Z4K312748Z0FZ1GXJb1YTDYRCY7AZ2I5300MYQBX5f012Z4K312748aD
  QaIRZ0FZ1GZDNZRPa5OYTDYRCY7AZ2IZ9LZAM5300OYQBg2ZG12Z4K312748aDQaIRZ0FZ1GZDNZRPa5OYTDYRCY7AZ2IZ9L
  ZAMaPU5300aQVOYQBeDZG12Z4K312748aDQaIRZ0FZ1GZDNZRPa5OYTDYRCY7AZ2IZ9LZAMaPU5300aQVOYQBeEZG12Z4K31
  2748aDQaIRZ0FZ1GZDNZRPa5OYTDYRCY7AZ2IZ9LZAMaPU5300aQVOYQBeFZG12Z4K312748aDQaIRZ0FZ1GZDNZRPa5OYTD
  YRCY7AZ2IZ9LZAMaPU5300aQVOYQBeGZG12Z4K312748aDQaIRZ0FZ1GZDNZRPa5OYTDYRCY7AZ2IZ9LZAMaPU5300aQVOYQ
  Bg3ZG12Z4K312748aDQaIRZ0FZ1GZDNZRPa5OYTDYRCY7AZ2IZ9LZAMaPU5300aQVPDBXUH12q1XNJK312748SQX1RGFHGON
  QPROFDECCAIILLMMX2U5300X3VPDBb0H12q2XNJK312748SQX1RGFHGONQPROFDECCAIILLMMX2U5300X3VPDBXUH12q3XNJ
  K312748SQX1RGFHGONQPROFDECCAIILLMMX2U5300X3VPDBXUH12q4XNJK312748SQX1RGFHGONQPROFDECCAIILLMMX2U53
  00X3VPDBXUH12q5XNJK312748SQX1RGFHGONQPROFDECCAIILLMMX2U5300X3VPDBXUH12q6XNJK312748SQX1RGFHGONQPR
  OFDECCAIILLMMX2U5300X3VPDBXUH12q7XNJK312748SQX1RGFHGONQPROFDECCAIILLMMX2U5300X3VOYQBg0ZG12Z4K312
  748aDQaIRZ0FZ1GZDNZRPa5OYTDYRCY7AZ2IZ9LZAMaPU5300aQVPDBXUH12q8XSJK312748SQX1RGFHGONQPROFDECCAIIL
  LMMX2U5300X3VPDBXUH12q9XSJK312748SQX1RGFHGONQPROFDECCAIILLMMX2U5300X3VPDBXUH12qAXSJK312748SQX1RG
  FHGONQPROFDECCAIILLMMX2U5300X3VGXX1Z5c7X9cOEXQHXX2Td316475XX3SaUY300eIX08X1XX4YRc8YSXX5XROXVBK2X
  X6Y1YSKP1N7T8ZPQa2RYOFYPGZ3NZ8PZCOY5DY0CXTAY6IYULYVMaAUX4300aBVODBXX7YQ12JK312748SQX1RGFHGONQPRO
  FDECCAIILLMMX2U5300X3VPXVBK2XX8XSYSKP1N7T8ZPQa2RYOFYPGZ3NZ8PZCOY5DY0CXTAY6IYULYVMaAUX4300XX9XVaB
  VODBl2YQ12JK312748SQX1RGFHGONQPROFDECCAIILLMMX2U5300X3VODBp7YQ12JK312748SQX1RGFHGONQPROFDECCAIIL
  LMMX2U5300X3V4hJcMhKf100o5bGGXXAZ5c7X9cOEXQHXXBTd316475XXCSaUY300eIX08X1XXDYRc8YSXXEXRGXXFZ5c7X9
  cOEXQHXXGTd316475XXHSaUY300eIX08X1XXIYRc8YSXXJXRGXXKZ5c7X9cOEXQHXXLTd316475XXMSaUY300eIX08X1XXNY
  Rc8YSXXOXRGXXPZ5c7X9cOEXQHXXQTd316475XXRSaUY300eIX08X1XXSYRc8YSXXTXRGXXUZ5c7X9cOEXQHXXVTd316475X
  Y0SaUY300eIX08X1XY1YRc8YSXY2XR6X7b2X8ZDf1YPdVZ3c4900Oa6B12aRKf9ZH312748c6QcARaJFaKGbJNbRPbVOaEDa
  7CZSAaLIb3Lb4McJU5300cKVOa6B12aRKeAZH312748c6QcARaJFaKGbJNbRPbVOaEDa7CZSAaLIb3Lb4McJU5300cKVOa6B
  12aRKg1ZH312748c6QcARaJFaKGbJNbRPbVOaEDa7CZSAaLIb3Lb4McJU5300cKVOa6B12aRKeHZH312748c6QcARaJFaKGb
  JNbRPbVOaEDa7CZSAaLIb3Lb4McJU5300cKVOa6B12aRKeCZH312748c6QcARaJFaKGbJNbRPbVOaEDa7CZSAaLIb3Lb4McJ
  U5300cKVEa6B12XJaTX5f2312748aJFaKGaEDa7CZSA53009XJJ12X5f3312748ZSA5300Ka6B12aRKX5cV312748aJFaKGb
  JNbRPbVOaEDa7CZSAaLIb3Lb4M5300La6B12aRKX5f4312748c6QaJFaKGbJNbRPbVOaEDa7CZSAaLIb3Lb4M5300Ca6B12X
  JaUX5d0312748aEDa7CZSA5300Ia6B12aRKX5d1312748aJFaKGXJaVaEDa7CZSAaLIb3Lb4M5300Ja6B12aRKX5d1312748
  aJFaKGbJNXJOaEDa7CZSAaLIb3Lb4M5300Ka6B12aRKX5cV312748aJFaKGbJNbRPXJOaEDa7CZSAaLIb3Lb4M5300Ba6B12
  XJb0X5d0312748a7CZSA5300Ga6B12aRKX5f5312748aJFaKGXJb1aEDa7CZSAaLI5300Ma6B12aRKX5f6312748c6QcARaJ
  FaKGbJNbRPbVOaEDa7CZSAaLIb3Lb4M5300Oa6B12aRKg2ZH312748c6QcARaJFaKGbJNbRPbVOaEDa7CZSAaLIb3Lb4McJU
  5300cKVOa6B12aRKeDZH312748c6QcARaJFaKGbJNbRPbVOaEDa7CZSAaLIb3Lb4McJU5300cKVOa6B12aRKeEZH312748c6
  QcARaJFaKGbJNbRPbVOaEDa7CZSAaLIb3Lb4McJU5300cKVOa6B12aRKeFZH312748c6QcARaJFaKGbJNbRPbVOaEDa7CZSA
  aLIb3Lb4McJU5300cKVOa6B12aRKeGZH312748c6QcARaJFaKGbJNbRPbVOaEDa7CZSAaLIb3Lb4McJU5300cKVOa6B12aRK
  g3ZH312748c6QcARaJFaKGbJNbRPbVOaEDa7CZSAaLIb3Lb4McJU5300cKV4X7JX8f7kM900Oa6B12aRKg0ZH312748c6QcA
  RaJFaKGbJNbRPbVOaEDa7CZSAaLIb3Lb4McJU5300cKVOYQBXY3E12Z4K312748aDQaIRZ0FZ1GZDNZRPa5OYTDYRCY7AZ2I
  Z9LZAMaPU5300aQVOYQB12Z4KXY4XO312748aDQaIRZ0FZ1GZDNZRPa5OYTDYRCY7AZ2IZ9LZAMaPU5300aQVODB12JK31XY
  5Y22748SQX1RGFHGONQPROFDECCAIILLMMX2U5300X3VPa6B12XY6YPl4Z331aRcR2748c6QcARaJFaKGbJNbRPbVOaEDa7C
  ZSAaLIb3Lb4McJU5300cKVOYQB12Z4KXY7XO312748aDQaIRZ0FZ1GZDNZRPa5OYTDYRCY7AZ2IZ9LZAMaPU5300aQVODB12
  JK31XY8Y22748SQX1RGFHGONQPROFDECCAIILLMMX2U5300X3VOYQB12Z4KXY9XO312748aDQaIRZ0FZ1GZDNZRPa5OYTDYR
  CY7AZ2IZ9LZAMaPU5300aQVOYQB12Z4KXYAXO312748aDQaIRZ0FZ1GZDNZRPa5OYTDYRCY7AZ2IZ9LZAMaPU5300aQVOYQB
  12Z4KXYBXO312748aDQaIRZ0FZ1GZDNZRPa5OYTDYRCY7AZ2IZ9LZAMaPU5300aQVFXYCZ5c7X9cOEXYDYQd316475XYESaU
  Y300eIX08X1XYFYRc8YSXYGXRNYQBK2Z4KP1N7T8aDQaIRZ0FZ1GZDNZRPa5OYTDYRCY7AZ2IZ9LZAMaPU5300aQVNYQB12Z
  4K312748aDQaIRZ0FZ1GZDNZRPa5OYTDYRCY7AZ2IZ9LZAMaPU5300aQVFXYHZ5c7X9cBHXYITA16475XYJSdPY300qBX08X
  1XYKYRc8YSXYLXRAXYMXIcOEd4HXYNTd316475cDY300l6X0EdJZ5fAX9XYOTXYPXSdK1cR4cS5fBS00fCX08X1fDYRfEYSf
  FXREXYQZ5c7X9XYRYQA16475XYSSdPY300qBX08X1XYTYRc8YSXYUXREdJZ5fAX9XYVTl7XSdK1cR4cS5fBS00fCX08X1fDY
  RfEYSfFXREXZ0Z5XZ1X9XZ2TXZ3XSXZ41XZ54XZ65XZ7S00XZ8X0XZ9X1XZAYRXZBYSXZCXRAXZDXIcOEd4HXZETd316475c
  DY300l6X0EdJZ5fAX9XZFTXZGXSdK1cR4cS5fBS00fCX08X1fDYRfEYSfFXREdJZ5fAX9XZHTl7XSdK1cR4cS5fBS00fCX08
  X1fDYRfEYSfFXREdJZ5fAX9XZITXZJXSdK1cR4cS5fBS00fCX08X1fDYRfEYSfFXREdJZ5fAX9XZKTl7XSdK1cR4cS5fBS00
  fCX08X1fDYRfEYSfFXR9XZLXIcOEXZMYQd316475cDY300l6X0C9Z2b5X9XQHd2TBY4Y89A1647500XLX0a9XRD9Z1b5X9XQ
  Hd2TBY4Y89A16475cFS00XLX0a9XRC9Z2b5X9XQHd0TBY4Y89A1647500XLX0a9XRD9Z1b5X9XQHd0TBY4Y89A16475cFS00
  XLX0a9XRC9Z2b5X9XQHd1TBY4Y89A1647500XLX0a9XRD9Z1b5X9XQHd1TBY4Y89A16475cFS00XLX0a9XRC9Z2b5X9XQHi1
  TBY4Y89A1647500XLX0a9XRD9Z1b5X9XQHi1TBY4Y89A16475cFS00XLX0a9XRC9Z2b5X9XQHi2TBY4Y89A1647500XLX0a9
  XRD9Z1b5X9XQHi2TBY4Y89A16475cFS00XLX0a9XRC9Z2b5X9XQHi3TBY4Y89A1647500XLX0a9XRD9Z1b5X9XQHi3TBY4Y8
  9A16475cFS00XLX0a9XRA9XIXQHd2TBY4Y89A1647500XLX0CdJZ1l8X9qCEBf8dK1cR4cS5XZNS00XZOX0XZPXRXZQXVA9X
  IXQHd0TBY4Y89A1647500XLX0A9XIXQHd1TBY4Y89A1647500XLX0A9XIXQHi1TBY4Y89A1647500XLX0A9XIXQHi2TBY4Y8
  9A1647500XLX0A9XIXQHi3TBY4Y89A1647500XLX0F9f9XZRYBqDX9A16475XZSX5qES00qFX08X1qGYRqHYSqIZ9qJZAB9Z
  2b5X9i4YQBY4Y89A1647500XLX0a9XRC9Z1b5X9i4YQBY4Y89A16475cFS00XLX0a9XRB9Z2b5X9cBHi5TBY4A1647500XLX
  0a9XRC9Z1b5X9cBHi5TBY4A16475cFS00XLX0a9XR99XIi4YQBY4Y89A1647500XLX0D9Z5qDX9A16475qES00qFX08X1qGY
  RqHYSqIZ9qJZA99Z2l8X9BZBA1647500i6X0qKXRDdJZ5XZTX9dK1cR4cS5XZUS00XZVX08X1Xa0YRXa1YSXa2Z9Xa3ZAA9Z
  2b5X9i7YQBY4A1647500XLX0a9XRB9Z1b5X9i7YQBY4A16475cFS00XLX0a9XRBdJZ1Xa4X9BZBdK1cR4cS5Xa5S00Xa6X0X
  a7Z9Xa8ZA99XIcBHi5TBY4A1647500XLX099Z2qLX9BZBA1647500g7X0qMXRA9Z2Xa9X9BZBA1647500XaAX0XaBZ9XaCZA
  A9Z2XaDX9BZBA1647500XaEX0XaFZ9XaGZA5qNa2qOa9XaH2XaI70079XIBZBA1647500i6X089XIi7YQBY4A1647500XLX0
  79XIBZBA1647500g7X079XIBZBA1647500XaJX079XIBZBA1647500XaKX079XIBZBA1647500XaLX079XIBZBA1647500Xa
  MX04XaNa2XaOfA00XaPX13XaQXIXaRa3003XaSfBXaTfC003XaUXIXaVa3003Xb0XIXb1a3003Xb2XIXb3a3003Xb4XIXb5a
  3003Xb6XIXb7a3003Xb8XIXb9a3003XbAXIXbBa3004cVXIcUa400XbCXV4dLXId8a400XbDXV89XIB2A16475l9X400i8X0
  99Z2XbEX9B2A1647500i8X0XbFXR9qPZJdQY5dRa0B2dSX5dTSdUX2008X1A9Z2XbGX9B2A1647500XbHX0XbIZ9XbJZAB9Z
  1XbKX9B2A16475XbLS00XbMX0XbNZ9XbOZA3qQXIqRa4004qQXIqRfDXbPXS00A9Z2XbQX9B2A1647500XbRX0XbSZ9XbTZA
  A9Z2XbUX9B2A1647500XbVX0Xc0Z9Xc1ZA3Xc2XIXc3a4003Xc4XIXc5a4003Xc6XIXc7a4003cVXIcUa4003fOXIfNa4009
  9Z2qLX9B2A1647500g7X0qMXRA9Z2Xc8X9B2A1647500Xc9X0XcAZ9XcBZA3XcCa2XcDa90099Z1b5X9A16475cFS00XLX0a
  9XR3qNa2qOa9008qPZJdQY5dRa0dSX5dTSdUX2008X179XIB2A1647500i8X0A9Z1XcEX9A16475XcFS00XcGX0XcHZ9XcIZ
  A79XIB2A1647500XcJX079XIB2A1647500XcKX03XcLa2XcMa90079XIB2A1647500qSX079XIB2A1647500XcNX079XIB2A
  1647500XcOX079XIB2A1647500XcPX079XIB2A1647500XcQX079XIB2A1647500XcRX079XIB2A1647500XcSX079XIB2A1
  647500XcTX079XIB2A1647500XcUX079XIB2A1647500XcVX079XIB2A1647500Xd0X03kQa2kRa9003kUa2kVa9003l0a2l
  1a90099Z1l8X9A16475Xd1S00i6X0qKXR8Xd2ZJdQY5dRa0dSX5dTSdUX2008X179XIB2A1647500g7X0A9Z1Xd3X9A16475
  Xd4S00Xd5X0Xd6Z9Xd7ZA79XIB2A1647500qTX079XIB2A1647500Xd8X079XIB2A1647500Xd9X079XIB2A1647500XdAX0
  79XIB2A1647500XdBX079XIB2A1647500XdCX079XIB2A1647500XdDX079XIB2A1647500XdEX079XIB2A1647500XdFX02
  XdGX60069XIA1647500XLX069XIA1647500i8X069XIA1647500XdHX069XIA1647500qSX069XIA1647500XdIX069XIA16
  47500XdJX069XIA1647500XdKX069XIA1647500XdLX069XIA1647500XdMX02XdNX6002XdOX6002XdPX60069XIA164750
  0i6X069XIA1647500g7X069XIA1647500XdQX069XIA1647500qTX069XIA1647500XdRX069XIA1647500XdSX069XIA164
  7500XdTX069XIA1647500XdUX069XIA1647500XdVX02Xe0X6008Xe16qUX9qVElAbTr07cR4cS5005e0EXe2ZSe1X3r1ZT0
  08aS6aMEbSXOc0Y0aTY8c17i9Z0005e0EiAZSe1X3r1ZT005e0EXe3ZSe1X3r2ZT008aS6aMEbSXOc0Y0aTY8c17iBZ0005e
  0EiAZSe1X3r2ZT005e0EXe4ZSe1X3r3ZT008aS6aMEbSXOc0Y0aTY8c17iCZ0005e0EiAZSe1X3r3ZT005e0EXe5ZSe1X3r4
  ZT008aS6aMEbSXOc0Y0aTY8c17iDZ0005e0EiAZSe1X3r4ZT007aS6aMEbSXOc0Y0aTY8i9Z0007aS6aMEc0Y0aTY8c17i9Z
  0005Xe6EXe7ZSXe8X3Xe9ZT007aS6aMEbSXOc0Y0aTY8iBZ0007aS6aMEc0Y0aTY8c17iBZ0007aS6aMEbSXOc0Y0aTY8iCZ
  0007aS6aMEc0Y0aTY8c17iCZ0007aS6aMEbSXOc0Y0aTY8iDZ0007aS6aMEc0Y0aTY8c17iDZ0006aS6aMEc0Y0aTY8i9Z00
  06aS6aMEiEY0aTY8XeAZ0005aMEXeBX3XeC4XeD5005XeE6XeFEXeGfEXeHY8006aS6aMEc0Y0aTY8iBZ0006aS6aMEiEY0a
  TY8XeIZ0006aS6aMEc0Y0aTY8iCZ0006aS6aMEiEY0aTY8XeJZ0006aS6aMEc0Y0aTY8iDZ0006aS6aMEiEY0aTY8XeKZ000
  6iF6XeLHXeMT6475006iG6XeNHXeOT6475004XeP6cNEcQ1002r5b3004XeQ6cNEcQ1004XeR6cNEcQ1005XQHd2TBY4Y890
  02r6b3005XeS6XeTZ6bSXOXeU9005iF6r7T6475002r8b3002r9b3005iG6rAT6475004lBa8iHaAXeV9005lBfFiHaAfG90
  0Xf0XV2rBb3005iF6Xf1T6475005iG6Xf2T6475003XUHrCd2005XQHd0TBY4Y89003Xf3HhVd2005XQHd1TBY4Y89005XQH
  i1TBY4Y89005XQHi2TBY4Y89005XQHi3TBY4Y89004Xf4b400Xf5X7iIb54rDb400Xf6X7iIb52g6a5002g4a5004rEZJXf7
  TrFbU004Xf86Xf9Z6XfA9004a82XfBY1fG9004XfCb400XfDX7XfEb52g5a5004rEZJXfFTrFbU004XfG6cOErG1004XfH6c
  NEcQ1004XfI6cOErG1003XfJ6XfKfG003XfL6XfMfH004a82XfNY1fG9004a82XfOY1fG9004XfPZJXfQTXfRbU004a82XfS
  Y1fG9004iF66475004iG66475002r5a5002r6a5002r8a5002r9a5002rBa5002hTd3002hUd3004XfTb400XfUX7iIb54rD
  b400XfVX7iIb54Xg06iJY0Xg1Y8004Xg26e2Ee3ZK004Xg3YBrHX5008X13lBa8fG9004Xg46iKEe3ZK003dIYEXg59002dI
  fI003Xg6ZLXg7X3005lC6K2rI100lDX84Xg86Xg9Y0XgAY8004XgB6e2Ee3ZK004XgC66475004i4YQBY4Y89005d4HXgDTB
  XOY89004XgE6iKEe3ZK003XgFZLXgGX3003XgH6XgIZ6003rJZLrKX3004XgJ66475003XgKZLXgLX3003rLZLrMX3004cBH
  i5TBY4004rNa8rOYPrPZ3003XgM6XgNZ6003XgO6XgPZ6003XgQ6XgRZ6003XgS6XgTZ6002hTd4002hUd4003rK6rJZ6003
  rM6rLZ6003hGZLhFX3003hIZLhHX3003hMZLhLX3003hOZLhNX3003hQZLhPX3003hSZLhRX3003hF6hGZ6003hH6hIZ6003
  hL6hMZ6003hN6hOZ6003hP6hQZ6003hR6hSZ6004XgU6e2Ee3ZK005lE612rQ100lFX84XgV6Xh0Y0Xh1Y8005d4HXh2TBXO
  Y89004Xh36e2Ee3ZK004Xh46Xh5Y0Xh6Y8004Xh76Xh8Y0Xh9Y8004XhA6iJY0XhBY8004XhC6e2Ee3ZK003dIYEXhD9004X
  hE6e2Ee3ZK003fVYElG9004XhF6iJY0XhGY8004XhH6iJY0XhIY8004XhJYBrRX5008X14rS4XhKZUXSY60Y74rS5XhLZVXS
  Y60Y74XhM6XhNX9a82004K2N7XhO8003lHZIXhPY1003XhQX5008X13rTYCXhRY1003iLHXhSY1003iLHXhTY1004XhU6XhV
  X9a82004rUHrVXNfH9003Xi0X5008X14dEHfH9s0Y2004s14iMZUXSY60Y74s15iNZVXSY60Y73e2ElIZK004Xi16Xi2X9a8
  2003i0HrCY1003rHX5008X13s2ElIZK003fVaFlJ9003qUX9qVE004rTYCXi3XS00Xi4XV3iLHXi5Y1003iLHXi6Y1003iKE
  lIZK004Xi76Xi8X9a82003Xi9Hl5fJ004XiA4XiBZUXSY60Y74XiC5XiDZVXSY60Y73XiEHhVY1004XiFYQBXOY89003i7YQ
  BY4003XiGHs3Y1002XiHfK003iHaAXiI9005XiJaJs44XiKbVXSY60Y75XiLaJs45XiMc0XSY60Y75XiNaJs54XiObVXSY60
  Y75XiPaJs55XiQc0XSY60Y75XiRaJXiS4XiTbVXSY60Y75XiUaJXiV5Xj0c0XSY60Y72BZB002g6c1002g4c1002g5c1002l
  3ZB004s64Xj1ZUXSY60Y74s65Xj2ZVXSY60Y741227Xj38004dEHfH9s7Y2004s84iMZUXSY60Y74s85iNZVXSY60Y74s94X
  j4ZUXSY60Y74s95Xj5ZVXSY60Y74sA4iMZUXSY60Y74sA5iNZVXSY60Y74sB4Xj6ZUXSY60Y74sB5Xj7ZVXSY60Y74sC4iMZ
  UXSY60Y74sC5iNZVXSY60Y74Xj86Xj9X9a82003XjAX5008X13rRX5008X14XjB6XjCX9a82004XjD6XjEX9a82004XjF6Xj
  GX9a82003XjH2XjIXA003XjJ6XjKY1003XjL6XjMY1002XjN6003XjOb6lHZI003p4Y4Y6YP003d4HXjPT003cBHXjQT003a
  82XjRXO003lAbTXjS7003rUHrVXN003dEHs0Y2003b0Hp9Y2003XjT6a82004lC6rI100lDX83cR4cS5002XjUbI003XjVHs
  DT003Xk0b6Xk1YQ003cBHXk2T003d4HXk3T003d4HXk4T003cBHXk5T003Xk6HsET003Xk7HsFT003Xk8b6Xk9YQ003XkAHs
  GT002rNa8003dVaAlJ9003XkB6a82003XkCHm8XN003sHEXkD2002l5bN003lKbAfH9003b0HXkEY2003dEHXkFY2003XkGH
  lKY2003XkH6a82003b0HpCXN004bSXOiOY0c17002XkIfL002XkJbI003XkKHr7T003a82XkLXO003sIYQfH9003XkMHrAT0
  02s3a8003XkN6a82003lLd5fH9003XkOHlLXN003b0HXkPXN002XkQbI003XkRHsJT003XkSHsKT003iHaA00XkTXV2XkUbI
  003d4HXkVT003cBHXl0T003lAbTr07003dEHs7Y2003b0HpSY2004lE6rQ100lFX83cBHXl1T003d4HXl2T003d4HXl3T003
  cBHXl4T003b0HXl5Y2003dEHXl6Y2003b0HpTXN004bSXOiPY0c17003b0HXl7XN003cBHXl8T003cBHXl9T003cBHXlAT00
  3b0Hq2XN004bSXOiQY0c17003b0HXlBXN004bSXOiRY0c17003XlC2XlDXA003XlEc9mLYD003dVaAlG9003XlF6a82003Xl
  G6a82003XlH6a82003XlI6a82002XlJ2002sHE002XlKY1002p3Y1003XlL6XlMX9002lHZI003XlNHsLZI002XlOE002XlP
  2002XlQbJ002XlRY1002XlSY1002p5Y1002p6Y1002e2E002a82002XlTE003XlU600XlVX83lC600lDX83Xm0XS00Xm1XV3
  Xm26Xm3X9002sFYQ002sEYQ003B2l9X4003B2sMX4002Xm4E002Xm5Y1002Xm6bJ002Xm72002lKbA003Xm86Xm9Y8002XmA
  Y1003bSXOiOY0003iOY0c17002s2E002XmBE002sIYQ003XmCXS00XmDXV2XmEY1002iKE002XmFE002XmGbJ002lLd5002q
  CE002XmHY1002sJYQ002XmIYQ002l3Y4002XmJYQ002sKYQ002d9Y1002XmKaA002XmLbJ002XmMY1002XmNY1002eBY1003
  rOYPrPZ3002XmOY1002kNY1002kSY1002kTY1003XmP600XmQX83lE600lFX83bSXOiPY0003iPY0c17003bSXOiQY0003iQ
  Y0c17003bSXOiRY0003iRY0c17003XSY6XmRbK0Y72Y6YP002XmSb7002XmT9002XmUX4002XmV6002Xn0X2002Xn19002Xn
  2b600200sNd62sLZI002p8XN002Xn3YD002l9X4002sMX4002Xn4X400200sNd73XSY6Xn5bL0Y72sDT002Xn66002Xn7600
  2B2002Xn89002Xn96002sGT002XnAZI002XnBb6002XnCXO002pAXS002XnD6002pBT002XnE6002pDY2002pET002iOY000
  2XnFZI002XnG6002XnHZI002XnIZI002XnJ6002XnKZI002XnLXO002pFXS002pGY2002XnMZI002pHXO002pIXN002pJXN0
  02pKXN002pLXS002XnNXN002XnOZI002pMXN002pNXN002pOXN002XnPXN002XnQXN002pPXN002pQXN002IYP002lG9002X
  nRX400200sOd62pRXN002XnSX4002XnTX4002XnUX400200sOd73XSY6XnVbL0Y72pUY2002pVT002iPY0002q0Y2002Z2YP
  002lJ9002Xo0X4002q1XN002Xo1X4002Xo2X4002Xo3X4003XSY6Xo4bL0Y72iQY0002q3XN003XSY6Xo5bL0Y72iRY0003X
  SY6Xo6bK0Y72q4XN002q5XN002q6XN002q7XN003XSY6Xo7bK0Y73XSY6Xo8bK0Y72aHYP002Xo99002XoAX4002XoBX4002
  XoCX4002XoDX4002q8XS002q9XS002aLYP002XoEX4002XoFX4002XoGX4002XoHX4002qAXS002XoI900"

end ScriptCensus.Grammar.JavaScript
