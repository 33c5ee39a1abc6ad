/-!
# Sources of the sample mappers

Two mappers that between them use every directive: one for the orders of a shop, one for users.
-/

namespace SqlMapper.Sample

def ordersLines : List String := [
  "<?xml version=\"1.0\" encoding=\"UTF-8\"?>",
  "<mapper namespace=\"shop.Orders\">",
  "  <select id=\"findByStatus\">",
  "    SELECT * FROM orders",
  "    <where>",
  "      <choose>",
  "        <when test=\"status == 'open' or status == 'pending'\">" ++
    "status IN ('open', 'pending')</when>",
  "        <when test=\"status != null\">status = #\x7bstatus\x7d</when>",
  "      </choose>",
  "      <if test=\"total > 100.5\">AND total &gt; 100.5</if>",
  "      <if test=\"tags.length > 0\">",
  "        AND (",
  "        <foreach collection=\"tags\" item=\"tag\" separator=\" OR \">",
  "          <bind name=\"like\" value=\"'%' + tag + '%'\"/>tags LIKE #\x7blike\x7d",
  "        </foreach>",
  "        )",
  "      </if>",
  "    </where>",
  "  </select>",
  "",
  "  <delete id=\"delete\">",
  "    DELETE FROM orders WHERE id = #\x7bid,jdbcType=BIGINT\x7d",
  "  </delete>",
  "</mapper>" ]

def usersLines : List String := [
  "<?xml version=\"1.0\" encoding=\"UTF-8\"?>",
  "<mapper namespace=\"Users\">",
  "  <sql id=\"columns\">id, name, age</sql>",
  "",
  "  <sql id=\"activeFilter\">",
  "    <if test=\"active != null\">AND active = #\x7bactive\x7d</if>",
  "  </sql>",
  "",
  "  <resultMap id=\"UserMap\" type=\"User\">",
  "    <id property=\"id\" column=\"id\"/>",
  "  </resultMap>",
  "",
  "  <select id=\"search\" resultMap=\"UserMap\" parameterType=\"UserSearch\" timeout=\"30\">",
  "    <bind name=\"pattern\" value=\"'%' + name + '%'\"/>",
  "    SELECT <include refid=\"columns\"/> FROM users",
  "    <where>",
  "      <include refid=\"activeFilter\"/>",
  "      <if test=\"name != null and name != ''\">AND name LIKE #\x7bPattern\x7d</if>",
  "      <if test=\"min_age != null\">AND age &gt;= #\x7bmin_age\x7d</if>",
  "      <if test=\"ids != null and ids.size > 0\">",
  "        AND id IN",
  "        <foreach collection=\"ids\" item=\"id\" open=\"(\" separator=\", \" close=\")\">" ++
    "#\x7bid\x7d</foreach>",
  "      </if>",
  "    </where>",
  "    <choose>",
  "      <when test=\"order == 'age'\">ORDER BY age DESC</when>",
  "      <when test=\"order != null\">ORDER BY name</when>",
  "      <otherwise>ORDER BY id</otherwise>",
  "    </choose>",
  "  </select>",
  "",
  "  <update id=\"update\">",
  "    UPDATE users",
  "    <set>",
  "      <if test=\"name != null\">name = #\x7bname\x7d,</if>",
  "      <if test=\"age != null\">age = #\x7bage\x7d,</if>",
  "    </set>",
  "    WHERE id = #\x7bid\x7d",
  "  </update>",
  "",
  "  <insert id=\"insertMany\">",
  "    INSERT INTO users (position, name, age) VALUES",
  "    <foreach collection=\"users\" item=\"u\" index=\"i\" separator=\", \">" ++
    "(#\x7bi\x7d, #\x7bu.name\x7d, #\x7bu.age\x7d)</foreach>",
  "  </insert>",
  "",
  "  <select id=\"sorted\">",
  "    SELECT <include refid=\"columns\"/> FROM $\x7btable\x7d ORDER BY $\x7bsort_column\x7d",
  "  </select>",
  "</mapper>" ]

/-- Lines as a source, each of them ended. -/
def sourceOf (lines : List String) : String :=
  String.join (lines.map (· ++ "\n"))

end SqlMapper.Sample
